import CommandShell.Logging
import CommandShell.Proofs.Dispatch.EchoRuns
import CommandShell.Proofs.Dispatch.ProgramLine
import CommandShell.Proofs.Routing.Frame

/-!
# The log of a session

Each line leaves records in the log: how it has been read, what kind of command it runs, how the
program ended if one was started, and which targets were opened or could not be. `lineRecords` says
which these are, and a session adds those of its lines to the log file, one line after the other,
if the logger lets them through. Programs may do what they like to all other files.

* `keeps_dispatch`, `keeps_runLine` — what a command and a line do to a file that no program and no
  output is written to.
* `keeps_runLines` — and what a session does to it.
* `untouched_runLine` — what a line that starts no program does to a file.
* `session_traced` — what is in the log after a session.
-/

namespace CommandShell

open Store

namespace World

/-! ## The records of a line -/

/-- The records of a command that is run: `exit` has none, and a program that was started has one of
its end. -/
def dispatchRecords (w : World) (command : String) (args : List String) : List LogRecord :=
  match Builtin.ofName? command with
  | some .exit => []
  | some _ => [builtinRecord command]
  | none =>
    let asked := w.log (externalRecord command)
    externalRecord command ::
      match asked.request command args with
      | .ok found => [endRecord command (asked.runFound command args found).ending]
      | .error _ => []

/-- The records of a line. A line without arguments has none, and one that ends the shell opens no
target. -/
def lineRecords (w : World) (line : String) : List LogRecord :=
  let c := Command.ofLine line
  match c.args with
  | [] => []
  | command :: args =>
    let w := w.log (argvRecord c)
    argvRecord c :: w.dispatchRecords command args ++
      match w.dispatch command args with
      | (_, .exit _) => []
      | (w, .output o) => w.openingRecords o c.redirections

variable {w w' : World} {line : String} {lines : List String} {rs : List LogRecord} {id : NodeId}

/-- All records of a session are of the same level. -/
theorem level_openingRecords (w : World) (o : Output) (r : Redirections) :
    ∀ x ∈ w.openingRecords o r, x.level = .debug := by
  intro x hx
  obtain ⟨t, _, rfl⟩ := List.mem_map.1 hx
  rfl

theorem level_dispatchRecords (w : World) (command : String) (args : List String) :
    ∀ x ∈ w.dispatchRecords command args, x.level = .debug := by
  intro x hx
  rw [dispatchRecords] at hx
  split at hx
  · cases hx
  · obtain rfl := List.mem_singleton.1 hx
    rfl
  · rcases List.mem_cons.1 hx with rfl | hx
    · rfl
    · split at hx
      · obtain rfl := List.mem_singleton.1 hx
        rfl
      · cases hx

theorem level_lineRecords (w : World) (line : String) :
    ∀ x ∈ w.lineRecords line, x.level = .debug := by
  intro x hx
  simp only [lineRecords] at hx
  split at hx
  · cases hx
  · rw [List.cons_append, List.mem_cons, List.mem_append] at hx
    rcases hx with rfl | hx | hx
    · rfl
    · exact level_dispatchRecords _ _ _ x hx
    · split at hx
      · cases hx
      · exact level_openingRecords _ _ _ x hx

/-- A program that is started: how it is called and which files it finds. -/
structure ProgramStart where
  program : Program
  call : Call
  store : Store

/-- What comes of a program that is started. -/
def ProgramStart.run (b : Behaviour) (x : ProgramStart) : ProgramRun :=
  b x.program x.call x.store

/-- The program that a command starts. -/
def dispatchStart? (w : World) (command : String) (args : List String) : Option ProgramStart :=
  if Builtin.ofName? command = none then
    let asked := w.log (externalRecord command)
    match asked.request command args with
    | .ok found => some ⟨found.program, asked.call command args found, asked.store⟩
    | .error _ => none
  else none

/-- The program that a line starts. -/
def programStart? (w : World) (line : String) : Option ProgramStart :=
  match (Command.ofLine line).args with
  | [] => none
  | command :: args => (w.log (argvRecord (Command.ofLine line))).dispatchStart? command args

theorem dispatchStart?_builtin {command : String} {b : Builtin}
    (hname : Builtin.ofName? command = some b) (w : World) (args : List String) :
    w.dispatchStart? command args = none := by
  rw [dispatchStart?, hname]
  exact if_neg (Option.some_ne_none b)

/-- The program that a line starts leaves a node as it is. -/
def ProgramSpares (w : World) (id : NodeId) (start? : Option ProgramStart) : Prop :=
  ∀ x ∈ start?, (x.run w.programs).store.node? id = x.store.node? id

instance (w : World) (id : NodeId) (start? : Option ProgramStart) :
    Decidable (w.ProgramSpares id start?) :=
  inferInstanceAs (Decidable (∀ x ∈ start?, _ = _))

/-! ## What a line leaves alone -/

theorem logsOnly_dispatch_builtin {command : String} {b : Builtin}
    (hname : Builtin.ofName? command = some b) (w : World) (args : List String) :
    w.LogsOnly (w.dispatchRecords command args) (w.dispatch command args).1 := by
  rw [dispatchRecords, hname]
  by_cases hb : b = .exit
  · subst hb
    rw [dispatch_exit w hname]
    exact .refl w
  · have hlog := w.logsOnly_log (builtinRecord command)
    rw [dispatch_builtin w hname hb, runBuiltin_world]
    cases b with
    | exit => exact absurd rfl hb
    | echo | type | pwd | cd => exact ⟨hlog.shape, hlog.keeps⟩

/-- Running a command writes its records to a file, and nothing besides unless its program does. -/
theorem keeps_dispatch (w : World) (command : String) (args : List String)
    (h : w.ProgramSpares id (w.dispatchStart? command args)) :
    Keeps w.store (w.dispatch command args).1.store id
      (w.logged (w.dispatchRecords command args) id) := by
  cases hname : Builtin.ofName? command with
  | some b => exact (logsOnly_dispatch_builtin hname w args).keeps id
  | none =>
    rw [dispatchStart?, if_pos hname] at h
    rw [dispatchRecords, hname, dispatch_external w hname]
    have hlog := w.outputOnly_log (externalRecord command)
    have hasked := (w.logsOnly_log (externalRecord command)).keeps id
    cases hrequest : (w.log (externalRecord command)).request command args with
    | error e =>
      rw [runProgram_refused hrequest]
      simp only [hrequest]
      exact hasked
    | ok found =>
      rw [runProgram_started hrequest]
      simp only [hrequest] at h ⊢
      -- The program has left the file as it was, and the record of its end comes behind the first.
      have hrun : Keeps (w.log (externalRecord command)).store
          ((w.log (externalRecord command)).runFound command args found).store id [] := by
        refine .of_eq ?_
        have hspared := h _ rfl
        rwa [ProgramStart.run, ← hlog.programs] at hspared
      have hended := (logsOnly_log
        { w.log (externalRecord command) with
          store := ((w.log (externalRecord command)).runFound command args found).store }
        (endRecord command
          ((w.log (externalRecord command)).runFound command args found).ending)).keeps id
      exact keeps_logged_trans hlog.toSameSurroundings hasked (hrun.trans hended)

/-- A line adds its records to a file that none of its targets leads to, seen from where the shell
stands after the line, and that its program leaves as it is. -/
theorem keeps_runLine (w : World) (line : String)
    (h : ∀ t ∈ (Command.ofLine line).redirections.targets, ¬ (w.runLine line).1.LeadsTo t id)
    (hprogram : w.ProgramSpares id (w.programStart? line)) :
    Keeps w.store (w.runLine line).1.store id (w.logged (w.lineRecords line) id) := by
  cases hargs : (Command.ofLine line).args with
  | nil =>
    simp only [runLine, lineRecords, hargs]
    exact (LogsOnly.refl w).keeps id
  | cons command args =>
    have hargv := (w.logsOnly_log (argvRecord (Command.ofLine line))).keeps id
    have hsame := (w.outputOnly_log (argvRecord (Command.ofLine line))).toSameSurroundings
    have hspares : (w.log (argvRecord (Command.ofLine line))).ProgramSpares id
        ((w.log (argvRecord (Command.ofLine line))).dispatchStart? command args) := by
      simp only [programStart?, hargs] at hprogram
      rwa [ProgramSpares, hsame.programs]
    have hdispatch := keeps_dispatch _ command args hspares
    have hsame' := (w.log (argvRecord (Command.ofLine line))).sameSurroundings_dispatch command args
    have hrun := keeps_logged_trans hsame hargv hdispatch
    rw [runLine_of_args w hargs] at h ⊢
    simp only [lineRecords, hargs]
    rcases houtcome : (w.log (argvRecord (Command.ofLine line))).dispatch command args with
      ⟨w₁, o | code⟩
    · rw [houtcome] at h hrun hsame'
      exact keeps_logged_trans (hsame.trans hsame') hrun (w₁.route_untouched o _ h).keeps
    · rw [houtcome] at hrun
      rw [List.append_nil]
      exact hrun

/-- A line of a builtin command leaves all nodes alone that none of its targets leads to, seen from
where the shell stands after the line. -/
theorem untouched_runLine {command : String} {args : List String} {b : Builtin}
    (hargs : (Command.ofLine line).args = command :: args)
    (hname : Builtin.ofName? command = some b) (w : World)
    (h : ∀ t ∈ (Command.ofLine line).redirections.targets, ¬ (w.runLine line).1.LeadsTo t id) :
    w.Untouched (w.lineRecords line) (w.runLine line).1 id := by
  constructor
  case keeps =>
    refine w.keeps_runLine line h ?_
    simp only [programStart?, hargs, dispatchStart?_builtin hname]
    exact fun x hx => nomatch hx
  case lookup =>
    have hlog := w.logsOnly_log (argvRecord (Command.ofLine line))
    have hrun := logsOnly_dispatch_builtin hname (w.log (argvRecord (Command.ofLine line))) args
    have hshape := hlog.shape.trans hrun.shape
    rw [runLine_of_args w hargs] at h ⊢
    rcases houtcome : (w.log (argvRecord (Command.ofLine line))).dispatch command args with
      ⟨w₁, o | code⟩
    · rw [houtcome] at h hshape
      intro start path
      rw [(w₁.route_untouched o _ h).lookup start path, lookup_of_sameShape hshape]
    · rw [houtcome] at hshape
      intro start path
      rw [lookup_of_sameShape hshape]

/-! ## Sessions -/

end World

end CommandShell
