import CommandShell.Dispatch
import CommandShell.Proofs.Routing.Stages

/-!
# What no line changes

A line may change files, consoles and the current directory, and it may ask the system to run a
program, which may change files, too. The environment, the logger, the time and what the world says
of programs and of room stay what they are, whatever the line does.

* `outputOnly_route` — routing changes files and consoles only.
* `sameSurroundings_runLine` — no line changes the surroundings.
-/

namespace CommandShell

namespace World

/-- Two worlds have the same environment, the same logger and the same time, and programs do the
same in them and find the same room. -/
structure SameSurroundings (w w' : World) : Prop where
  env : w'.env = w.env
  logger : w'.logger = w.logger
  now : w'.now = w.now
  programs : w'.programs = w.programs
  room : w'.room = w.room
  report : w'.report = w.report

variable {w w' w'' : World}

theorem SameSurroundings.refl (w : World) : SameSurroundings w w :=
  ⟨rfl, rfl, rfl, rfl, rfl, rfl⟩

theorem SameSurroundings.trans (h : SameSurroundings w w') (h' : SameSurroundings w' w'') :
    SameSurroundings w w'' :=
  ⟨h'.env.trans h.env, h'.logger.trans h.logger, h'.now.trans h.now,
    h'.programs.trans h.programs, h'.room.trans h.room, h'.report.trans h.report⟩

/-- The files make no difference to the surroundings. -/
theorem sameSurroundings_store (w : World) (s : Store) :
    SameSurroundings w { w with store := s } :=
  ⟨rfl, rfl, rfl, rfl, rfl, rfl⟩

/-- Only files and consoles are different, and what could be written to still can be. -/
structure OutputOnly (w w' : World) : Prop extends SameSurroundings w w' where
  cwd : w'.cwd = w.cwd
  launches : w'.launches = w.launches
  targets : Store.TargetsStay w.store w'.store

theorem OutputOnly.refl (w : World) : OutputOnly w w :=
  ⟨.refl w, rfl, rfl, .refl w.store⟩

theorem OutputOnly.trans (h : OutputOnly w w') (h' : OutputOnly w' w'') : OutputOnly w w'' :=
  ⟨h.toSameSurroundings.trans h'.toSameSurroundings, h'.cwd.trans h.cwd,
    h'.launches.trans h.launches, h.targets.trans h'.targets⟩

theorem outputOnly_store {s : Store} (h : Store.TargetsStay w.store s) :
    OutputOnly w { w with store := s } :=
  ⟨w.sameSurroundings_store s, rfl, rfl, h⟩

theorem outputOnly_log (w : World) (r : LogRecord) : OutputOnly w (w.log r) := by
  obtain ⟨s, hlog, hshape, _⟩ := w.log_store r
  rw [hlog]
  exact outputOnly_store (Store.targetsStay_of_sameShape hshape)

theorem outputOnly_complain (w : World) (text : String) : OutputOnly w (w.complain text) :=
  ⟨⟨rfl, rfl, rfl, rfl, rfl, rfl⟩, rfl, rfl, .refl w.store⟩

theorem outputOnly_print (w : World) (text : String) : OutputOnly w (w.print text) :=
  ⟨⟨rfl, rfl, rfl, rfl, rfl, rfl⟩, rfl, rfl, .refl w.store⟩

/-! ## Routing -/

theorem outputOnly_setConsole (w : World) (s : Stream) (c : Console) :
    OutputOnly w (w.setConsole s c) := by
  cases s <;> exact ⟨⟨rfl, rfl, rfl, rfl, rfl, rfl⟩, rfl, rfl, .refl w.store⟩

/-- To write to what has been opened changes files only. -/
theorem outputOnly_opened {t : Redirection} {s : Store} {id : NodeId}
    (hopen : (w.log t.record).store.openFile w.cwd (Utf8.encode t.path) t.mode = .ok (s, id))
    (b : Bytes) : OutputOnly w { w with store := s.append id b } := by
  have hopened := (w.outputOnly_log t.record).targets.trans (Store.targetsStay_openFile hopen)
  exact outputOnly_store
    (hopened.trans (Store.targetsStay_of_sameShape (Store.sameShape_append s id b)))

theorem outputOnly_leaves {stage : Stage} {e : RouteError} (h : stage.Leaves w e w') :
    OutputOnly w w' := by
  cases h with
  | notOpened t payloads e => exact w.outputOnly_log t.record
  | notWritten hopen hpart hshort after e => exact outputOnly_opened hopen _
  | console => exact w.outputOnly_setConsole _ _

theorem outputOnly_completes {stage : Stage} (h : stage.Completes w w') : OutputOnly w w' := by
  cases h with
  | file hopen htakes => exact outputOnly_opened hopen _
  | empty s => exact .refl w
  | console => exact w.outputOnly_setConsole _ _

theorem outputOnly_completed {stages : List Stage} (h : w.Completed stages w') :
    OutputOnly w w' := by
  induction h with
  | nil w => exact .refl w
  | cons h _ ih => exact (outputOnly_completes h).trans ih

theorem outputOnly_runAll (w : World) (stages : List Stage) :
    OutputOnly w (w.runAll stages).1 := by
  rcases w.completed_or_stopsAt stages with ⟨w', hdone⟩ | ⟨w₁, stage, e, hstop⟩
  · rw [hdone.runAll]
    exact outputOnly_completed hdone
  · obtain ⟨done, rest, _, hbefore⟩ := hstop.reached
    exact (outputOnly_completed hbefore).trans (outputOnly_leaves hstop.leaves)

theorem outputOnly_route (w : World) (o : Output) (r : Redirections) :
    OutputOnly w (w.route o r).1 := by
  rw [route_eq_runAll]
  exact w.outputOnly_runAll (r.stages o)

/-! ## Commands -/

/-- A builtin command may go to another directory, and that is all it does to the world. -/
theorem runBuiltin_world (w : World) (name : String) (args : List String) :
    (Builtin.run w name args).1 = { w with cwd := (Builtin.run w name args).1.cwd } := by
  rw [Builtin.run]
  split
  · split <;> rfl
  · rw [Builtin.runCd]
    split
    · rfl
    · next dir _ =>
      rw [changeDir]
      cases w.store.lookupDir w.cwd (Utf8.encode dir) <;> rfl
  · rfl
  · rfl
  · rfl
  · rfl

theorem sameSurroundings_builtin (w : World) (name : String) (args : List String) :
    SameSurroundings w (Builtin.run w name args).1 := by
  rw [runBuiltin_world]
  exact ⟨rfl, rfl, rfl, rfl, rfl, rfl⟩

theorem sameSurroundings_launch (w : World) (l : Launch) : SameSurroundings w (w.launch l) :=
  ⟨rfl, rfl, rfl, rfl, rfl, rfl⟩

theorem sameSurroundings_runProgram (w : World) (command : String) (args : List String) :
    SameSurroundings w (w.runProgram command args).1 := by
  simp only [runProgram]
  split
  · exact w.sameSurroundings_launch _
  · exact w.sameSurroundings_launch _
  · refine .trans ?_ (outputOnly_log _ _).toSameSurroundings
    exact (w.sameSurroundings_launch _).trans (sameSurroundings_store _ _)

/-! ## What a line and a command do in order -/

/-- The record of what a line has been read as. -/
def argvRecord (c : Command) : LogRecord :=
  ⟨.debug, .shell, commandRecord c⟩

/-- The record of a builtin command. -/
def builtinRecord (command : String) : LogRecord :=
  ⟨.debug, .commands, "builtin: " ++ command⟩

/-- The record of a command that the system is asked to run. -/
def externalRecord (command : String) : LogRecord :=
  ⟨.debug, .commands, "external: " ++ command⟩

variable {line command : String} {args : List String} {b : Builtin}

/-- A line with a command leaves a record, runs the command and routes its output, unless the
command ends the shell. -/
theorem runLine_of_args (w : World) (hargs : (Command.ofLine line).args = command :: args) :
    w.runLine line =
      match (w.log (argvRecord (Command.ofLine line))).dispatch command args with
      | (w, .exit code) => (w, .ok (.exit code))
      | (w, .output o) =>
        ((w.route o (Command.ofLine line).redirections).1,
          (w.route o (Command.ofLine line).redirections).2.map fun _ => .continue) := by
  simp only [runLine, hargs]
  rfl

/-- `exit` leaves no record. -/
theorem dispatch_exit (w : World) (hname : Builtin.ofName? command = some .exit)
    (args : List String) :
    w.dispatch command args =
      (w, match Builtin.exitCode args with
        | .ok code => .exit code
        | .error e => .output (.ofError e)) := by
  rw [dispatch, hname]
  cases Builtin.exitCode args <;> rfl

theorem dispatch_builtin (w : World) (hname : Builtin.ofName? command = some b) (hb : b ≠ .exit)
    (args : List String) :
    w.dispatch command args =
      ((Builtin.run (w.log (builtinRecord command)) command args).1,
        .output (.ofResult (Builtin.run (w.log (builtinRecord command)) command args).2)) := by
  rw [dispatch, hname]
  cases b with
  | exit => exact absurd rfl hb
  | echo | type | pwd | cd => rfl

theorem dispatch_external (w : World) (hname : Builtin.ofName? command = none)
    (args : List String) :
    w.dispatch command args =
      match (w.log (externalRecord command)).runProgram command args with
      | (w, .ok o) => (w, .output o)
      | (w, .error e) => (w, .output (.ofError e)) := by
  rw [dispatch, hname]
  rfl

theorem sameSurroundings_dispatch (w : World) (command : String) (args : List String) :
    SameSurroundings w (w.dispatch command args).1 := by
  cases hname : Builtin.ofName? command with
  | none =>
    have hlog := (w.outputOnly_log (externalRecord command)).toSameSurroundings
    have hrun := sameSurroundings_runProgram (w.log (externalRecord command)) command args
    rw [dispatch_external w hname]
    rcases hresult : (w.log (externalRecord command)).runProgram command args with ⟨w', e | o⟩
    · rw [hresult] at hrun
      exact hlog.trans hrun
    · rw [hresult] at hrun
      exact hlog.trans hrun
  | some b =>
    by_cases hb : b = .exit
    · subst hb
      rw [dispatch_exit w hname]
      exact .refl w
    · rw [dispatch_builtin w hname hb]
      exact (w.outputOnly_log _).toSameSurroundings.trans (sameSurroundings_builtin _ command args)

/-- Once its command has been run, a line changes files and consoles only. -/
theorem outputOnly_runLine (w : World) (hargs : (Command.ofLine line).args = command :: args) :
    OutputOnly ((w.log (argvRecord (Command.ofLine line))).dispatch command args).1
      (w.runLine line).1 := by
  rw [runLine_of_args w hargs]
  rcases (w.log (argvRecord (Command.ofLine line))).dispatch command args with ⟨w', o | code⟩
  · exact w'.outputOnly_route o _
  · exact .refl w'

/-- No line changes the surroundings. -/
theorem sameSurroundings_runLine (w : World) (line : String) :
    SameSurroundings w (w.runLine line).1 := by
  cases hargs : (Command.ofLine line).args with
  | nil =>
    simp only [runLine, hargs]
    exact .refl w
  | cons command args =>
    have hlog := (w.outputOnly_log (argvRecord (Command.ofLine line))).toSameSurroundings
    have hdispatch := (w.log (argvRecord (Command.ofLine line))).sameSurroundings_dispatch
      command args
    exact (hlog.trans hdispatch).trans (w.outputOnly_runLine hargs).toSameSurroundings

end World

end CommandShell
