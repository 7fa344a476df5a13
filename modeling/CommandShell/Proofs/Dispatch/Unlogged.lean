import CommandShell.Proofs.Dispatch.BuiltinLine
import CommandShell.Proofs.Store.SameBut

/-!
# Running lines without the log

The log is a file like any other, and a line may write to it, too. Still no line can tell whether it
is logged: with a logger and without one, lines have the same results, write the same to the
consoles, go to the same directories, ask for the same programs and leave the same in all files but
that of the log, even if there is no room for the log. Only the system must not look into the log to
start a program, and no program that is run may look into it. What programs do to all other files is
up to them.

* `Unlogged.writeFile`, `Unlogged.route` — delivering output.
* `Unlogged.dispatch` — running a command.
* `Unlogged.runLine`, `Unlogged.runLines` — one line, and lines one after the other.
* `runLines_unlogged` — any lines, in a world in which the log has been started.
-/

namespace CommandShell

open Store

namespace World

/-! ## What the log must not be -/

/-- The files into which the system looks when it is asked to run a program. -/
def openedBy (w : World) (command : String) (args : List String) : List NodeId :=
  let name := Utf8.encode command
  if args.any (·.toList.contains nul) || name.contains 0 || name.isEmpty then []
  else if name.contains Path.separator then w.store.opened w.cwd Store.maxOpened name
  else w.store.openedFirst w.cwd (w.argumentsFit (command :: args)) (w.programPaths name)

/-- The files into which the system looks to start the program of a line. -/
def openedByLine (w : World) (line : String) : List NodeId :=
  match (Command.ofLine line).args with
  | [] => []
  | command :: args => if Builtin.ofName? command = none then w.openedBy command args else []

/-- No line of a run starts a program from a file. -/
def NeverRuns (w : World) (id : NodeId) : List String → Prop
  | [] => True
  | line :: rest => id ∉ w.openedByLine line ∧ (w.runLine line).1.NeverRuns id rest

end World

/-- Programs have done the same, except that one file may hold something else. -/
structure SameRun (file : NodeId) (r r' : ProgramRun) : Prop where
  store : Store.SameBut file r.store r'.store
  output : r'.output = r.output
  ending : r'.ending = r.ending

namespace World

/-- A program that is started does not look into a file: whatever the file holds, the program does
the same. -/
def Blind (b : Behaviour) (file : NodeId) (x : ProgramStart) : Prop :=
  ∀ s, Store.SameBut file x.store s →
    SameRun file (x.run b) (ProgramStart.run b { x with store := s })

/-- No line of a run has the system or a program look into a file. -/
def Ignores (w : World) (id : NodeId) : List String → Prop
  | [] => True
  | line :: rest =>
    id ∉ w.openedByLine line ∧ (∀ x ∈ w.programStart? line, Blind w.programs id x) ∧
      (w.runLine line).1.Ignores id rest

/-- If no program ever looks into a file, it is enough that none is started from it. -/
theorem NeverRuns.ignores {w : World} {id : NodeId} {lines : List String}
    (h : w.NeverRuns id lines) (hblind : ∀ x, Blind w.programs id x) : w.Ignores id lines := by
  induction lines generalizing w with
  | nil => trivial
  | cons line rest ih =>
    refine ⟨h.1, fun x _ => hblind x, ih h.2 ?_⟩
    rw [(w.sameSurroundings_runLine line).programs]
    exact hblind

/-! ## With and without a log -/

/-- Two worlds are the same, except that they may have different loggers and that one file may hold
something else. -/
structure SameBut (file : NodeId) (w w' : World) : Prop where
  store : Store.SameBut file w.store w'.store
  cwd : w'.cwd = w.cwd
  env : w'.env = w.env
  stdout : w'.stdout = w.stdout
  stderr : w'.stderr = w.stderr
  now : w'.now = w.now
  launches : w'.launches = w.launches
  programs : w'.programs = w.programs
  room : w'.room = w.room
  report : w'.report = w.report

theorem SameBut.refl (file : NodeId) (w : World) : SameBut file w w :=
  ⟨.refl file w.store, rfl, rfl, rfl, rfl, rfl, rfl, rfl, rfl, rfl⟩

/-- The first world has no logger, and that of the second one writes to the file in which the two
may differ. -/
structure Unlogged (file : NodeId) (w w' : World) : Prop extends SameBut file w w' where
  silent : w.logger = none
  logs : ∀ l, w'.logger = some l → l.file = file

/-- The same has come of both, whether or not there is a log. -/
structure Agree {α : Type} (file : NodeId) (p q : World × α) : Prop where
  world : Unlogged file p.1 q.1
  result : q.2 = p.2

variable {file : NodeId} {w w' : World} {command line : String} {args lines : List String}

theorem Agree.exists_eq {α : Type} {p q : World × α} (h : Agree file p q) :
    ∃ v v' a, p = (v, a) ∧ q = (v', a) ∧ Unlogged file v v' := by
  obtain ⟨v, a⟩ := p
  obtain ⟨v', a'⟩ := q
  obtain rfl : a' = a := h.result
  exact ⟨v, v', a', rfl, rfl, h.world⟩

theorem log_eq_self (h : w.logger = none) (r : LogRecord) : w.log r = w := by
  rw [World.log, h]

/-- A record goes to the file in which the worlds may differ. What cannot be written is lost. -/
theorem Unlogged.log (h : Unlogged file w w') (r : LogRecord) :
    Unlogged file (w.log r) (w'.log r) := by
  rw [log_eq_self h.silent]
  unfold World.log
  split
  · exact h
  · next l hlogger =>
    obtain rfl := h.logs l hlogger
    split
    · rw [append_world]
      exact { h with store := h.store.trans (sameBut_append _ _ _) }
    · exact h

theorem Unlogged.launch (h : Unlogged file w w') (l : Launch) :
    Unlogged file (w.launch l) (w'.launch l) :=
  { h with launches := congrArg (l :: ·) h.launches }

/-! ## Delivering output -/

theorem Unlogged.append (h : Unlogged file w w') (k : Writer) (id : NodeId) (b : Bytes) :
    Agree file (w.append k id b) (w'.append k id b) := by
  have hcapacity := capacity_of_sameShape h.store.shape h.room k id b
  rw [World.append, World.append, hcapacity]
  exact ⟨{ h with store := h.store.append id _ }, rfl⟩

theorem Unlogged.writeAll (h : Unlogged file w w') (id : NodeId) (payloads : List Payload) :
    Agree file (w.writeAll id payloads) (w'.writeAll id payloads) := by
  induction payloads generalizing w w' with
  | nil => exact ⟨h, rfl⟩
  | cons p rest ih =>
    rw [World.writeAll, World.writeAll]
    split
    · exact ih h
    · obtain ⟨v, v', r, happend, happend', hworld⟩ := (h.append p.writer id p.bytes).exists_eq
      rw [happend, happend']
      cases r with
      | error e => exact ⟨hworld, rfl⟩
      | ok _ => exact ih hworld

theorem Unlogged.writeFile (h : Unlogged file w w') (t : Redirection) (payloads : List Payload) :
    Agree file (w.writeFile t payloads) (w'.writeFile t payloads) := by
  have hlog := h.log t.record
  have hopen := hlog.store.openFile w.cwd (Utf8.encode t.path) t.mode
  generalize hx : (w.log t.record).store.openFile w.cwd (Utf8.encode t.path) t.mode = x,
    hy : (w'.log t.record).store.openFile w.cwd (Utf8.encode t.path) t.mode = y at hopen
  rw [← h.cwd] at hy
  cases hopen with
  | error e =>
    rw [writeFile_of_open_error hx, writeFile_of_open_error hy]
    exact ⟨hlog, rfl⟩
  | @ok opened opened' hopened =>
    -- The same node has been opened in both, which may be the log itself.
    obtain ⟨s, id⟩ := opened
    obtain ⟨s', id'⟩ := opened'
    obtain ⟨hstore, rfl⟩ := hopened
    have hstores : Unlogged file { w with store := s } { w' with store := s' } :=
      { h with store := hstore }
    have hwritten := hstores.writeAll id' payloads
    rw [writeFile_of_open hx, writeFile_of_open hy, hwritten.result]
    exact ⟨hwritten.world, rfl⟩

theorem Unlogged.console (h : Unlogged file w w') (s : Stream) : w'.console s = w.console s := by
  cases s with
  | stdout => exact h.stdout
  | stderr => exact h.stderr

theorem Unlogged.setConsole (h : Unlogged file w w') (s : Stream) (c : Console) :
    Unlogged file (w.setConsole s c) (w'.setConsole s c) := by
  cases s with
  | stdout => exact { h with stdout := rfl }
  | stderr => exact { h with stderr := rfl }

theorem Unlogged.runStage (h : Unlogged file w w') (stage : Stage) :
    Agree file (stage.run w) (stage.run w') := by
  cases stage with
  | file t payloads => exact h.writeFile t payloads
  | console s payload =>
    simp only [Stage.run, deliver, h.console]
    split
    · exact ⟨h, rfl⟩
    · exact ⟨h.setConsole s _, rfl⟩

theorem Unlogged.runAll (h : Unlogged file w w') (stages : List Stage) :
    Agree file (w.runAll stages) (w'.runAll stages) := by
  induction stages generalizing w w' with
  | nil => exact ⟨h, rfl⟩
  | cons stage rest ih =>
    obtain ⟨v, v', r, hrun, hrun', hworld⟩ := (h.runStage stage).exists_eq
    rw [World.runAll, World.runAll, hrun, hrun']
    cases r with
    | error e => exact ⟨hworld, rfl⟩
    | ok _ => exact ih hworld

theorem Unlogged.route (h : Unlogged file w w') (o : Output) (r : Redirections) :
    Agree file (w.route o r) (w'.route o r) := by
  rw [route_eq_runAll, route_eq_runAll]
  exact h.runAll (r.stages o)

/-! ## Running a command -/

theorem Unlogged.currentDir (h : Unlogged file w w') : w'.currentDir = w.currentDir := by
  rw [World.currentDir, World.currentDir, h.cwd, pathOf_of_sameShape h.store.shape]

theorem Unlogged.describe (h : Unlogged file w w') (args : List String) :
    Builtin.describe w' args = Builtin.describe w args := by
  have hpath : ∀ a, w'.fullPath a = w.fullPath a := by
    intro a
    simp only [fullPath, searchDirs, h.env, h.cwd, isRunnable_of_sameShape h.store.shape]
  cases args with
  | nil => rfl
  | cons a rest => simp only [Builtin.describe, hpath]

theorem Unlogged.runCd (h : Unlogged file w w') (args : List String) :
    Agree file (Builtin.runCd w args) (Builtin.runCd w' args) := by
  rw [Builtin.runCd, Builtin.runCd, h.env]
  cases Builtin.cdTarget w.env args with
  | none => exact ⟨h, rfl⟩
  | some dir =>
    simp only [changeDir, h.cwd, lookupDir_of_sameShape h.store.shape]
    cases w.store.lookupDir w.cwd (Utf8.encode dir) with
    | error e => exact ⟨h, rfl⟩
    | ok id => exact ⟨{ h with cwd := rfl }, rfl⟩

theorem Unlogged.runBuiltin (h : Unlogged file w w') (name : String) (args : List String) :
    Agree file (Builtin.run w name args) (Builtin.run w' name args) := by
  rw [Builtin.run, Builtin.run, h.currentDir, h.describe]
  split
  · split <;> exact ⟨h, rfl⟩
  · exact h.runCd args
  · exact ⟨h, rfl⟩
  · exact ⟨h, rfl⟩
  · exact ⟨h, rfl⟩
  · exact ⟨h, rfl⟩

/-- What the system finds depends on no file into which it does not look. -/
theorem Unlogged.request (h : Unlogged file w w') (hlog : file ∉ w.openedBy command args) :
    w'.request command args = w.request command args := by
  have hfits : w'.argumentsFit (command :: args) = w.argumentsFit (command :: args) := by
    rw [argumentsFit, argumentsFit, h.env]
  have hpaths : w'.programPaths (Utf8.encode command) = w.programPaths (Utf8.encode command) := by
    simp only [programPaths, searchEntries, h.env]
  simp only [World.request, findProgram, hfits, hpaths, h.cwd]
  -- Before any file is looked into, the request may be refused in both worlds.
  rw [openedBy] at hlog
  by_cases hargs : (args.any fun a => a.toList.contains nul) = true
  · rw [if_pos hargs, if_pos hargs]
  by_cases hnul : (Utf8.encode command).contains 0 = true
  · rw [if_pos hnul, if_pos hnul]
  by_cases hempty : (Utf8.encode command).isEmpty = true
  · rw [if_pos hempty, if_pos hempty]
  simp only [hargs, hnul, hempty, Bool.or_self, Bool.false_eq_true, if_false] at hlog ⊢
  by_cases hpath : (Utf8.encode command).contains Path.separator = true
  · rw [if_pos hpath] at hlog ⊢
    rw [if_pos hpath, h.store.start hlog]
  · rw [if_neg hpath] at hlog ⊢
    rw [if_neg hpath, h.store.startFirst hlog]

theorem Unlogged.call (h : Unlogged file w w') (found : Started) :
    w'.call command args found = w.call command args found := by
  rw [World.call, World.call, h.cwd, h.env, h.launches]

theorem Unlogged.runProgram (h : Unlogged file w w') (hlog : file ∉ w.openedBy command args)
    (hblind : ∀ found, w.request command args = .ok found →
      Blind w.programs file ⟨found.program, w.call command args found, w.store⟩) :
    Agree file (w.runProgram command args) (w'.runProgram command args) := by
  have hrequest := h.request hlog
  cases hfound : w.request command args with
  | error e =>
    rw [runProgram_refused hfound, runProgram_refused (hrequest.trans hfound)]
    exact ⟨h.launch _, rfl⟩
  | ok found =>
    have hrun : SameRun file (w.runFound command args found) (w'.runFound command args found) := by
      rw [runFound, runFound, h.programs, h.call]
      exact hblind found hfound w'.store h.store
    rw [runProgram_started hfound, runProgram_started (hrequest.trans hfound), ended, ended,
      hrun.output, hrun.ending]
    refine ⟨(Unlogged.log ?_ _).launch _, rfl⟩
    exact { h with store := hrun.store }

theorem Unlogged.dispatch (h : Unlogged file w w')
    (hlog : Builtin.ofName? command = none → file ∉ w.openedBy command args)
    (hblind : ∀ x ∈ w.dispatchStart? command args, Blind w.programs file x) :
    Agree file (w.dispatch command args) (w'.dispatch command args) := by
  cases hname : Builtin.ofName? command with
  | none =>
    have hrun : Agree file ((w.log (externalRecord command)).runProgram command args)
        ((w'.log (externalRecord command)).runProgram command args) := by
      refine (h.log _).runProgram ?_ ?_
      · rw [log_eq_self h.silent]
        exact hlog hname
      · rw [log_eq_self h.silent]
        intro found hfound
        refine hblind _ ?_
        rw [dispatchStart?, if_pos hname, log_eq_self h.silent]
        simp only [hfound, Option.mem_some]
    obtain ⟨v, v', r, hv, hv', hworld⟩ := hrun.exists_eq
    rw [dispatch_external w hname, dispatch_external w' hname, hv, hv']
    cases r <;> exact ⟨hworld, rfl⟩
  | some b =>
    by_cases hb : b = .exit
    · subst hb
      rw [dispatch_exit w hname, dispatch_exit w' hname]
      exact ⟨h, rfl⟩
    · have hrun := (h.log (builtinRecord command)).runBuiltin command args
      rw [dispatch_builtin w hname hb, dispatch_builtin w' hname hb, hrun.result]
      exact ⟨hrun.world, rfl⟩

/-! ## Running lines -/

theorem Unlogged.runLine (h : Unlogged file w w') (hlog : file ∉ w.openedByLine line)
    (hblind : ∀ x ∈ w.programStart? line, Blind w.programs file x) :
    Agree file (w.runLine line) (w'.runLine line) := by
  cases hargs : (Command.ofLine line).args with
  | nil =>
    simp only [World.runLine, hargs]
    exact ⟨h, rfl⟩
  | cons command args =>
    have hrun : Agree file ((w.log (argvRecord (Command.ofLine line))).dispatch command args)
        ((w'.log (argvRecord (Command.ofLine line))).dispatch command args) := by
      simp only [programStart?, hargs, log_eq_self h.silent] at hblind
      refine (h.log _).dispatch (fun hname => ?_) ?_
      · rw [log_eq_self h.silent]
        simp only [openedByLine, hargs, if_pos hname] at hlog
        exact hlog
      · rw [log_eq_self h.silent]
        exact hblind
    obtain ⟨v, v', outcome, hv, hv', hworld⟩ := hrun.exists_eq
    rw [runLine_of_args w hargs, runLine_of_args w' hargs, hv, hv']
    cases outcome with
    | exit code => exact ⟨hworld, rfl⟩
    | output o =>
      have hroute := hworld.route o (Command.ofLine line).redirections
      exact ⟨hroute.world, by simp only [hroute.result]⟩

theorem Unlogged.runLines (h : Unlogged file w w') (hruns : w.Ignores file lines) :
    Agree file (w.runLines lines) (w'.runLines lines) := by
  -- The worlds that the first line leaves are the same but for the log again.
  induction lines generalizing w w' with
  | nil => exact ⟨h, rfl⟩
  | cons line rest ih =>
    obtain ⟨hline, hblind, hrest⟩ := hruns
    have hrun := h.runLine hline hblind
    have hruns := ih hrun.world hrest
    refine ⟨hruns.world, ?_⟩
    rw [World.runLines, World.runLines]
    dsimp only
    rw [hrun.result, hruns.result]

end World

end CommandShell
