import CommandShell.Proofs.Command.Written
import CommandShell.Proofs.Text.Encoding
import CommandShell.Proofs.World.Surroundings

/-!
# Lines that run programs

A line that names a program asks the system once to run it, with the words of the line as its
arguments and nothing to read. What the program writes is routed as it is, however it ends and
whatever it has done to the files. A word with a NUL cannot be given to a program; then nothing is
started and the reason is routed.

* `runProgram_started`, `runProgram_refused` — what comes of a request to run a program.
* `Asks.of_route` — a line that has asked the system and routes an output.
* `runLine_program` — what a written line does that names a program.
-/

namespace CommandShell

/-- The character that no argument of a program can hold. -/
def nul : Char := '\x00'

/-! ## Requests -/

namespace World

variable {w w₁ : World} {command : String} {args : List String}

/-- The record of the end of a program. -/
def endRecord (command : String) (ending : ProgramEnd) : LogRecord :=
  ⟨.debug, .commands, command ++ " exited with " ++ ending.describe⟩

/-- Requests and records do not meet. -/
theorem log_launch (w : World) (l : Launch) (r : LogRecord) :
    (w.launch l).log r = (w.log r).launch l := by
  unfold log launch
  dsimp only
  split
  · rfl
  · split <;> rfl

theorem outputOnly_logAll (w : World) (rs : List LogRecord) : OutputOnly w (w.logAll rs) := by
  obtain ⟨s, hlog, hshape, _⟩ := w.logAll_store rs
  rw [hlog]
  exact outputOnly_store (Store.targetsStay_of_sameShape hshape)

theorem SameSurroundings.argumentsFit {w' : World} (h : SameSurroundings w w')
    (args : List String) : w'.argumentsFit args = w.argumentsFit args := by
  rw [World.argumentsFit, World.argumentsFit, h.env]

/-- What the system finds when it is asked to run a program. -/
def request (w : World) (command : String) (args : List String) : Except OsError Store.Started :=
  if args.any fun a => a.toList.contains nul then .error .nulInArgument
  else w.findProgram (w.argumentsFit (command :: args)) (Utf8.encode command)

theorem request_eq (w : World) (command : String) (args : List String) :
    (if args.any fun a => a.toList.contains '\x00' then .error .nulInArgument
      else w.findProgram (w.argumentsFit (command :: args)) (Utf8.encode command)) =
      w.request command args :=
  rfl

theorem request_of_args (hargs : ∀ a ∈ args, nul ∉ a.toList) :
    w.request command args =
      w.findProgram (w.argumentsFit (command :: args)) (Utf8.encode command) := by
  refine if_neg fun hany => ?_
  obtain ⟨a, ha, hnul⟩ := List.any_eq_true.1 hany
  exact hargs a ha (List.contains_iff_mem.1 hnul)

/-- A request with a NUL in a word is refused. -/
theorem request_nul (h : ∃ a ∈ command :: args, nul ∈ a.toList) :
    w.request command args = .error .nulInArgument := by
  by_cases hargs : ∀ a ∈ args, nul ∉ a.toList
  · -- The NUL is in the name.
    obtain ⟨a, ha, hnul⟩ := h
    rcases List.mem_cons.1 ha with rfl | ha
    · have hbyte : (0 : UInt8) ∈ Utf8.encode a :=
        (Utf8.mem_encode (a := nul) (by decide) a).2 hnul
      rw [request_of_args hargs, findProgram, if_pos (List.contains_iff_mem.2 hbyte)]
    · exact absurd hnul (hargs a ha)
  · refine if_pos (List.any_eq_true.2 ?_)
    obtain ⟨a, ha, hnul⟩ : ∃ a ∈ args, nul ∈ a.toList := by simpa using hargs
    exact ⟨a, ha, List.contains_iff_mem.2 hnul⟩

/-- The world once a program that has been found has been run, with the record of its end. -/
def ended (w : World) (command : String) (args : List String) (found : Store.Started) : World :=
  { w with store := (w.runFound command args found).store }.log
    (endRecord command (w.runFound command args found).ending)

theorem launches_ended (w : World) (command : String) (args : List String)
    (found : Store.Started) : (w.ended command args found).launches = w.launches :=
  (outputOnly_log _ _).launches

/-- A program that has been found is run, and its output is what it writes. -/
theorem runProgram_started {found : Store.Started} (h : w.request command args = .ok found) :
    w.runProgram command args =
      ((w.ended command args found).launch ⟨command, args, [], .started found.path⟩,
        .ok (w.runFound command args found).output) := by
  rw [ended, ← log_launch, runProgram, request_eq, h]
  rfl

/-- What is reported of a request that is refused. -/
def refusal (command : String) : OsError → CommandError
  | .errno .noEntry => .notFound command
  | e => .notStarted command e

theorem runProgram_refused {e : OsError} (h : w.request command args = .error e) :
    w.runProgram command args =
      (w.launch ⟨command, args, [], .refused e⟩, .error (refusal command e)) := by
  rw [runProgram, request_eq, h]
  cases e with
  | errno n => cases n <;> rfl
  | nulInPath | nulInArgument | notUtf8 | consoleFull | flushFailed => rfl

/-- The reason for which a request with a NUL is refused. -/
theorem ofError_nul (command : String) :
    Output.ofError (refusal command .nulInArgument) =
      ⟨[], Utf8.encode (command ++ ": nul byte found in provided data\n")⟩ := by
  have hmessage : (refusal command .nulInArgument).message =
      command ++ ": " ++ "nul byte found in provided data" := rfl
  have hend : ": " ++ ("nul byte found in provided data" ++ "\n") =
      ": nul byte found in provided data\n" := by simp
  rw [Output.ofError, hmessage, String.append_assoc, String.append_assoc, hend]

/-! ## Lines that ask the system -/

/-- A line asks the system once to run a program and then routes an output, from the world `v` in
which only the request is still to be taken down; no such line ends the shell. -/
structure Asks (w : World) (line : String) (v : World) (l : Launch) (o : Output)
    (r : Redirections) : Prop where
  launches : (w.runLine line).1.launches = l :: w.launches
  /-- The shell goes on once every stage of the output has been delivered. -/
  continues : ∀ w', w.runLine line = (w', .ok .continue) ↔
    (v.launch l).Completed (r.stages o) w'
  fails : ∀ e, (w.runLine line).2 = .error e ↔
    ∃ w₁ stage, (v.launch l).StopsAt (r.stages o) w₁ stage e
  stays : ∀ code, (w.runLine line).2 ≠ .ok (.exit code)

theorem Asks.of_route {line : String} {v : World} {l : Launch} {o : Output} {r : Redirections}
    (hlaunches : v.launches = w.launches)
    (h : w.runLine line =
      (((v.launch l).route o r).1, ((v.launch l).route o r).2.map fun _ => .continue)) :
    w.Asks line v l o r := by
  constructor
  case launches =>
    rw [h, (outputOnly_route _ o r).launches, launch, hlaunches]
  case continues =>
    intro w'
    rw [← runAll_eq_ok_iff, ← route_eq_runAll, h]
    rcases (v.launch l).route o r with ⟨w₂, e | _⟩ <;> simp [Except.map]
  case fails =>
    intro e
    rw [← runAll_eq_error_iff, ← route_eq_runAll, h]
    rcases (v.launch l).route o r with ⟨w₂, e | _⟩ <;> simp [Except.map]
  case stays =>
    intro code
    rw [h]
    rcases (v.launch l).route o r with ⟨w₂, e | _⟩ <;> simp [Except.map]

end World

/-! ## Written lines -/

namespace WrittenLine

/-- The records that the line leaves in the log before it asks the system to run its program. -/
def announcement (l : WrittenLine) : List LogRecord :=
  [⟨.debug, .shell, World.commandRecord ⟨l.command :: l.args, l.targets⟩⟩,
    ⟨.debug, .commands, "external: " ++ l.command⟩]

/-- Whether a word of the line holds a NUL. -/
def HoldsNul (l : WrittenLine) : Prop :=
  ∃ a ∈ l.command :: l.args, nul ∈ a.toList

end WrittenLine

namespace World

variable {w : World} {l : WrittenLine}

/-- A line that names no builtin command routes what comes of running a program. -/
theorem runLine_text_program (w : World) (hname : Builtin.ofName? l.command = none) :
    w.runLine l.text =
      match (w.logAll l.announcement).runProgram l.command l.args with
      | (w₁, .ok o) => ((w₁.route o l.targets).1, (w₁.route o l.targets).2.map fun _ => .continue)
      | (w₁, .error e) =>
        ((w₁.route (.ofError e) l.targets).1,
          (w₁.route (.ofError e) l.targets).2.map fun _ => .continue) := by
  have hannounce : (w.debug .shell (commandRecord ⟨l.command :: l.args, l.targets⟩)).debug
      .commands ("external: " ++ l.command) = w.logAll l.announcement := rfl
  simp only [runLine, WrittenLine.ofLine_text, dispatch, hname, hannounce]
  rcases (w.logAll l.announcement).runProgram l.command l.args with ⟨w₁, e | o⟩ <;> rfl

/-- A line that names a program which can be started asks the system once to run it. Whatever
programs do, the program is called with exactly the words of the line as its arguments and finds
nothing to read, the files are then as it has left them, and exactly what it has written is routed.
If a word holds a NUL, nothing is started, and what is routed is an empty standard output and the
reason. -/
theorem runLine_program (w : World) (l : WrittenLine)
    (hname : Builtin.ofName? l.command = none) :
    (∀ found : Store.Started, ¬ l.HoldsNul →
      (w.logAll l.announcement).findProgram (w.argumentsFit (l.command :: l.args))
        (Utf8.encode l.command) = .ok found →
      let announced := w.logAll l.announcement
      let run := w.programs found.program
        ⟨l.command, found.before ++ l.args.map Utf8.encode, w.cwd, w.env, [], w.launches.length⟩
        announced.store
      w.Asks l.text ({ announced with store := run.store }.log (endRecord l.command run.ending))
        ⟨l.command, l.args, [], .started found.path⟩ run.output l.targets) ∧
    (l.HoldsNul →
      w.Asks l.text (w.logAll l.announcement)
        ⟨l.command, l.args, [], .refused .nulInArgument⟩
        ⟨[], Utf8.encode (l.command ++ ": nul byte found in provided data\n")⟩ l.targets) := by
  have hsame := w.outputOnly_logAll l.announcement
  constructor
  · intro found hnul hfound announced run
    have hargs : ∀ a ∈ l.args, nul ∉ a.toList :=
      fun a ha hmem => hnul ⟨a, List.mem_cons_of_mem _ ha, hmem⟩
    have hrun : announced.runFound l.command l.args found = run := by
      rw [runFound, call, hsame.programs, hsame.cwd, hsame.env, hsame.launches]
    rw [← hsame.argumentsFit, ← request_of_args hargs] at hfound
    refine .of_route ((outputOnly_log _ _).launches.trans hsame.launches) ?_
    rw [w.runLine_text_program hname, runProgram_started hfound, ended, hrun]
  · intro hnul
    refine .of_route hsame.launches ?_
    rw [w.runLine_text_program hname, runProgram_refused (request_nul hnul), ← ofError_nul]

/-- Each program does what its file says, and adds its arguments to the file `notes`. -/
def noting : Behaviour := fun p c s =>
  match s.openFile c.cwd (Utf8.encode "notes") .append with
  | .error _ => p.run c s
  | .ok (t, id) => { p.run c s with store := t.append id c.args.flatten }

/-- A world with a program that shows its arguments, writes bytes that are no text and is killed. -/
def withProgram : World where
  store := ⟨#[.dir [(Utf8.encode "bin", 1)] Store.root true,
    .dir [(Utf8.encode "show", 2)] Store.root true,
    .file (.program { out := [255], err := [254], showArguments := true, ending := .signal 9 })
      Mode.executable]⟩
  env := [("PATH", Utf8.encode "/no:/bin")]
  programs := noting

/-- A line with an empty word, a line feed, quotes and a backslash in its words. -/
def showLine : WrittenLine where
  command := "show"
  args := ["", "a\nb", "it's \"q\" \\"]
  redirections := [⟨"2>", "e f", by decide⟩, ⟨">>", "o", by decide⟩]
  plain := by decide

theorem runLine_program_show :
    Builtin.ofName? showLine.command = none ∧ ¬ showLine.HoldsNul ∧
      ∃ v : World, v.store.read v.cwd (Utf8.encode "notes") =
          .ok (Utf8.encode "a\nbit's \"q\" \\") ∧
        withProgram.Asks showLine.text v
          ⟨"show", ["", "a\nb", "it's \"q\" \\"], [], .started (Utf8.encode "/bin/show")⟩
          ⟨255 :: Utf8.encode "[]\n[a\nb]\n[it's \"q\" \\]\n", [254]⟩
          ⟨some ⟨"o", .append⟩, some ⟨"e f", .truncate⟩⟩ := by
  have hname : Builtin.ofName? showLine.command = none := by decide
  have hnul : ¬ showLine.HoldsNul := by
    simp only [WrittenLine.HoldsNul]
    decide
  refine ⟨hname, hnul, _, ?_, (withProgram.runLine_program showLine hname).1 _ hnul rfl⟩
  rfl

end World

end CommandShell
