import CommandShell.Proofs.Dispatch.Search
import CommandShell.Proofs.Dispatch.Trace

/-!
# Lines that start no program

A line without a command changes nothing, whatever it redirects, and a line that ends the shell
opens none of its targets. Any other builtin command changes the files that the targets of its line
lead to, seen from where the shell stands after the command, and no others; and only a `cd` that
succeeds goes to another directory, however the routing of its output ends. The records in the log
are all that comes on top.

* `runCd_of_sameShape` — where `cd` goes depends on no content of a file.
* `cwd_runLine` — where a line with a builtin command leaves the shell.
* `runLine_without_program` — all that a line without a program changes.
-/

namespace CommandShell

open Store

/-! ## Where `cd` goes -/

theorem Store.lookupDir_of_sameShape {s t : Store} (h : SameShape s t) (cwd : NodeId)
    (path : Bytes) : t.lookupDir cwd path = s.lookupDir cwd path := by
  rw [lookupDir, lookupDir, lookup_of_sameShape h]
  simp only [isDir_of_sameShape h]

namespace Builtin

variable {w w₁ : World} {args : List String}

/-- Where `cd` goes depends on no content of a file. -/
theorem runCd_of_sameShape (henv : w₁.env = w.env) (hcwd : w₁.cwd = w.cwd)
    (hshape : SameShape w.store w₁.store) (args : List String) :
    (runCd w₁ args).1.cwd = (runCd w args).1.cwd := by
  unfold runCd
  rw [henv]
  cases cdTarget w.env args with
  | none => exact hcwd
  | some dir =>
    simp only [World.changeDir, lookupDir_of_sameShape hshape, hcwd]
    cases w.store.lookupDir w.cwd (Utf8.encode dir) with
    | error e => exact hcwd
    | ok id => rfl

/-- A `cd` that fails goes nowhere. -/
theorem runCd_error {e : CommandError} (h : (runCd w args).2 = .error e) :
    (runCd w args).1 = w := by
  unfold runCd at h ⊢
  cases htarget : cdTarget w.env args with
  | none => rfl
  | some dir =>
    simp only [htarget, World.changeDir] at h ⊢
    cases hdir : w.store.lookupDir w.cwd (Utf8.encode dir) with
    | error e => rfl
    | ok id =>
      rw [hdir] at h
      cases h

/-- Only `cd` goes anywhere. -/
theorem run_cwd {name : String} {b : Builtin} (hname : ofName? name = some b) :
    (run w name args).1.cwd = if b = .cd then (runCd w args).1.cwd else w.cwd := by
  rw [run, hname]
  cases b with
  | cd => rfl
  | pwd =>
    simp only [if_neg (show ¬ Builtin.pwd = .cd by decide)]
    split <;> rfl
  | echo | exit | type => rfl

end Builtin

namespace World

variable {w w' : World} {line command : String} {args : List String} {b : Builtin}

theorem cwd_dispatch_builtin (hname : Builtin.ofName? command = some b) :
    (w.dispatch command args).1.cwd =
      if b = .cd then (Builtin.runCd w args).1.cwd else w.cwd := by
  by_cases hb : b = .exit
  · subst hb
    rw [dispatch_exit w hname, if_neg (by decide)]
  · have hlog := w.outputOnly_log (builtinRecord command)
    rw [dispatch_builtin w hname hb, Builtin.run_cwd hname, hlog.cwd,
      Builtin.runCd_of_sameShape hlog.env hlog.cwd (w.logsOnly_log _).shape]

/-- A line leaves the shell where its command goes, and only `cd` goes anywhere. -/
theorem cwd_runLine (hargs : (Command.ofLine line).args = command :: args)
    (hname : Builtin.ofName? command = some b) :
    (w.runLine line).1.cwd = if b = .cd then (Builtin.runCd w args).1.cwd else w.cwd := by
  have hlog := w.outputOnly_log (argvRecord (Command.ofLine line))
  have hshape := (w.logsOnly_log (argvRecord (Command.ofLine line))).shape
  rw [(w.outputOnly_runLine hargs).cwd, cwd_dispatch_builtin hname, hlog.cwd,
    Builtin.runCd_of_sameShape hlog.env hlog.cwd hshape]

/-! ## What the line changes -/

/-- A line of a builtin command changes files that its targets lead to, seen from where the shell
stands after it, and the current directory if it is a `cd` that succeeds. -/
structure BuiltinLine (w : World) (line : String) (b : Builtin) (args : List String)
    (w' : World) : Prop where
  surroundings : SameSurroundings w w'
  /-- Whatever could be written to still can be. -/
  targets : TargetsStay w.store w'.store
  /-- The system is not asked to run anything. -/
  launches : w'.launches = w.launches
  /-- A node that no target leads to is no other than before, but for the records in the log. -/
  others : ∀ id, (∀ t ∈ (Command.ofLine line).redirections.targets, ¬ w'.LeadsTo t id) →
    w.Untouched (w.lineRecords line) w' id
  /-- These are in the log only if it is a detailed one. -/
  quiet : w.Quiet → ∀ id, w.logged (w.lineRecords line) id = []
  /-- The shell is where `cd` goes, whatever becomes of its output. -/
  goes : b = .cd → (Builtin.runCd w args).1 = { w with cwd := w'.cwd }
  /-- A `cd` that fails goes nowhere. -/
  fails : b = .cd → ∀ e, (Builtin.runCd w args).2 = .error e → w'.cwd = w.cwd
  /-- No other command goes anywhere. -/
  stays : b ≠ .cd → w'.cwd = w.cwd

/-- Whatever comes of a line that runs a builtin command, this is all that it changes. -/
theorem builtinLine_runLine (hargs : (Command.ofLine line).args = command :: args)
    (hname : Builtin.ofName? command = some b) :
    w.BuiltinLine line b args (w.runLine line).1 := by
  have hcwd := cwd_runLine (w := w) hargs hname
  have hargv := w.outputOnly_log (argvRecord (Command.ofLine line))
  have hdispatch := logsOnly_dispatch_builtin hname (w.log (argvRecord (Command.ofLine line))) args
  constructor
  · exact w.sameSurroundings_runLine line
  · exact (hargv.targets.trans (targetsStay_of_sameShape hdispatch.shape)).trans
      (w.outputOnly_runLine hargs).targets
  · rw [(w.outputOnly_runLine hargs).launches, launches_dispatch_builtin hname]
    exact hargv.launches
  · intro id hid
    exact untouched_runLine hargs hname w hid
  · intro hquiet id
    exact hquiet.logged_eq_nil (w.level_lineRecords line) id
  · intro hcd
    rw [hcwd, if_pos hcd]
    exact runBuiltin_world w "cd" args
  · intro hcd e herror
    rw [hcwd, if_pos hcd, Builtin.runCd_error herror]
  · intro hcd
    rw [hcwd, if_neg hcd]

/-- What a line changes that starts no program: nothing if there is no command, nothing but a record
in the log if it ends the shell, and what `BuiltinLine` says for any builtin command. -/
theorem runLine_without_program (w : World) (line : String) :
    ((Command.ofLine line).args = [] → w.runLine line = (w, .ok .continue)) ∧
      (∀ args code, (Command.ofLine line).args = "exit" :: args →
        Builtin.exitCode args = .ok code →
          w.runLine line = (w.log (argvRecord (Command.ofLine line)), .ok (.exit code)) ∧
            (w.Quiet → w.runLine line = (w, .ok (.exit code)))) ∧
      ∀ command args b, (Command.ofLine line).args = command :: args →
        Builtin.ofName? command = some b →
          w.BuiltinLine line b args (w.runLine line).1 := by
  refine ⟨?_, ?_, ?_⟩
  · intro hargs
    simp only [runLine, hargs]
  · intro args code hargs hcode
    have hname : Builtin.ofName? "exit" = some .exit := rfl
    have hrun : w.runLine line =
        (w.log (argvRecord (Command.ofLine line)), .ok (.exit code)) := by
      rw [runLine_of_args w hargs, dispatch_exit _ hname, hcode]
    constructor
    · exact hrun
    · intro hquiet
      rw [hrun, hquiet.log_eq_self rfl]
  · intro command args b hargs hname
    exact builtinLine_runLine hargs hname

/-- A world with a directory and a log that takes records of all levels. -/
def withDirectory : World where
  store := ⟨#[.dir [(Utf8.encode "log", 1), (Utf8.encode "d", 2)] Store.root true,
    .file (.ofBytes []) Mode.plain, .dir [] Store.root true]⟩
  logger := some ⟨.trace, .trace, 1⟩

/-- `cd` goes to the directory although its output cannot be delivered, and the target of standard
output is created there. -/
theorem runLine_without_program_cd :
    (withDirectory.runLine "cd d > f 2> no/e").2.isOk = false ∧
      (withDirectory.runLine "cd d > f 2> no/e").1.cwd = 2 ∧
      (withDirectory.runLine "cd d > f 2> no/e").1.LeadsTo ⟨"f", .truncate⟩ 3 ∧
      withDirectory.BuiltinLine "cd d > f 2> no/e" .cd ["d"]
        (withDirectory.runLine "cd d > f 2> no/e").1 := by
  refine ⟨by decide +kernel, by decide +kernel, by decide +kernel, ?_⟩
  exact (withDirectory.runLine_without_program "cd d > f 2> no/e").2.2 "cd" ["d"] .cd rfl rfl

/-- The end of the shell leaves a record in the log. -/
theorem exit_changes_log :
    ¬ ∀ (w : World) (line : String) (args : List String) (code : Int),
      (Command.ofLine line).args = "exit" :: args → Builtin.exitCode args = .ok code →
        (w.runLine line).1 = w := by
  intro h
  have hsame := h withDirectory "exit > f" [] 0 rfl rfl
  have hstores : (withDirectory.runLine "exit > f").1.store ≠ withDirectory.store := by
    decide +kernel
  exact hstores (congrArg World.store hsame)

end World

end CommandShell
