import CommandShell.Proofs.Dispatch.ProgramLine
import CommandShell.Proofs.Text.Backspaces
import CommandShell.Shell

/-!
# A shell runs its lines

A shell runs the lines of its input one after the other, each once, up to the first that ends it.
A line that fails is complained about and the next one is run. `Session` says this by one rule for
each way a line can go. Programs have none of the lines to read.

* `Session.unique` — lines lead to one world and one status only.
* `session_run` — what a shell that is at work does with the lines that are left.
* `call_of_runProgram` — what a program is called with.
* `runShell_eq_iff_session` — what a shell does with its input.
-/

namespace CommandShell

namespace Shell

/-- What a shell complains about when a line is no text. -/
def unreadableComplaint : String :=
  "Error: " ++ OsError.notUtf8.message ++ "\n\nCaused by:\n    " ++ OsError.notUtf8.message ++ "\n"

/-- `Session w lines w' n`: the lines, run one after the other from the world `w`, lead to the world
`w'` and end with the status `n`. -/
inductive Session : World → List (Except LineError String) → World → Nat → Prop where
  /-- There are no more lines. -/
  | ended (w : World) : Session w [] w 0
  | continued {w w₁ w' : World} {line : String} {rest : List (Except LineError String)} {n : Nat}
      (hline : w.runLine line = (w₁, .ok .continue)) (hrest : Session w₁ rest w' n) :
      Session w (.ok line :: rest) w' n
  /-- A line that fails is complained about. -/
  | failed {w w₁ w' : World} {line : String} {e : RouteError}
      {rest : List (Except LineError String)} {n : Nat} (hline : w.runLine line = (w₁, .error e))
      (hrest : Session (w₁.complain ("myshell: " ++ e.message ++ "\n")) rest w' n) :
      Session w (.ok line :: rest) w' n
  /-- No line after one that ends the shell is run. -/
  | exited {w w₁ : World} {line : String} {code : Int} (rest : List (Except LineError String))
      (hline : w.runLine line = (w₁, .ok (.exit code))) :
      Session w (.ok line :: rest) w₁ (code % 256).toNat
  /-- Nor is one after a line that is no text. -/
  | notText (w : World) (rest : List (Except LineError String)) :
      Session w (.error .notText :: rest) (w.complain unreadableComplaint) 1
  /-- Nor is one after a line in which a backspace cuts a character apart: there the shell breaks
  down. -/
  | cutsCharacter (w : World) (rest : List (Except LineError String)) :
      Session w (.error .cutsCharacter :: rest) (w.complain w.report) brokenStatus

/-- Lines lead to one world and one status only. -/
theorem Session.unique {w w' w'' : World} {lines : List (Except LineError String)} {n m : Nat}
    (h : Session w lines w' n) (h' : Session w lines w'' m) : w'' = w' ∧ m = n := by
  induction h generalizing w'' m with
  | ended =>
    cases h'
    exact ⟨rfl, rfl⟩
  | continued hline _ ih =>
    cases h' with
    | continued hline' hrest' =>
      cases hline.symm.trans hline'
      exact ih hrest'
    | failed hline' | exited _ hline' => cases hline.symm.trans hline'
  | failed hline _ ih =>
    cases h' with
    | failed hline' hrest' =>
      cases hline.symm.trans hline'
      exact ih hrest'
    | continued hline' | exited _ hline' => cases hline.symm.trans hline'
  | exited _ hline =>
    cases h' with
    | exited _ hline' =>
      cases hline.symm.trans hline'
      exact ⟨rfl, rfl⟩
    | continued hline' | failed hline' => cases hline.symm.trans hline'
  | notText | cutsCharacter =>
    cases h'
    exact ⟨rfl, rfl⟩

/-! ## A shell at work -/

/-- A shell at work that keeps no history file and shows no prompt. -/
structure Quiet (s : Shell) : Prop where
  noHistory : s.config.historyFile = none
  noPrompt : s.world.showsPrompt = false

variable {s : Shell}

theorem Quiet.prompt (h : s.Quiet) : s.prompt = s := by
  rw [Shell.prompt, h.noPrompt]
  rfl

theorem remember_world (s : Shell) (line : String) : (s.remember line).world = s.world := by
  rw [remember]
  split <;> rfl

theorem remember_config (s : Shell) (line : String) : (s.remember line).config = s.config := by
  rw [remember]
  split <;> rfl

/-- The shell goes on after a line that says so, and after one that fails. -/
theorem runLine_none {t : Shell} {line : String} (h : s.runLine line = (t, none)) :
    s.world.runLine line = (t.world, .ok .continue) ∨
      ∃ w e, s.world.runLine line = (w, .error e) ∧
        t.world = w.complain ("myshell: " ++ e.message ++ "\n") := by
  rw [runLine] at h
  simp only [remember_world] at h
  split at h
  · next w hline =>
    cases h
    exact Or.inl hline
  · cases h
  · next w e hline =>
    cases h
    exact Or.inr ⟨w, e, hline, rfl⟩

theorem runLine_some {t : Shell} {line : String} {code : Int}
    (h : s.runLine line = (t, some code)) :
    s.world.runLine line = (t.world, .ok (.exit code)) := by
  rw [runLine] at h
  simp only [remember_world] at h
  split at h
  · cases h
  · next w code' hline =>
    cases h
    exact hline
  · cases h

theorem config_runLine (s : Shell) (line : String) : (s.runLine line).1.config = s.config := by
  rw [runLine]
  split <;> exact s.remember_config line

theorem sameSurroundings_runLine {t : Shell} {line : String} {code : Option Int}
    (h : s.runLine line = (t, code)) : World.SameSurroundings s.world t.world := by
  have hline := s.world.sameSurroundings_runLine line
  cases code with
  | none =>
    rcases runLine_none h with heq | ⟨w, e, heq, hworld⟩
    · rwa [heq] at hline
    · rw [heq] at hline
      rw [hworld]
      exact hline.trans (w.outputOnly_complain _).toSameSurroundings
  | some code => rwa [runLine_some h] at hline

/-- A line changes no variable, and so no prompt comes to be shown. -/
theorem Quiet.runLine (h : s.Quiet) {t : Shell} {line : String} {code : Option Int}
    (hrun : s.runLine line = (t, code)) : t.Quiet := by
  have hconfig := s.config_runLine line
  rw [hrun] at hconfig
  have hprompt := h.noPrompt
  rw [World.showsPrompt] at hprompt
  refine ⟨hconfig ▸ h.noHistory, ?_⟩
  rwa [World.showsPrompt, (sameSurroundings_runLine hrun).env]

/-- Remembering lines has no effect outside without a history file. -/
theorem Quiet.finish_exit (h : s.Quiet) (code : Int) :
    s.finish (.exit code) = (s.world, (code % 256).toNat) := by
  have hpath : s.config.historyPath s.world.env = none := by
    rw [Config.historyPath, h.noHistory]
    rfl
  simp only [finish, hpath]

/-- What a shell at work does with the lines that are left. -/
theorem session_run (h : s.Quiet) (lines : List Bytes) :
    Session s.world (lines.map readLine) ((s.run lines).1.finish (s.run lines).2).1
      ((s.run lines).1.finish (s.run lines).2).2 := by
  induction lines generalizing s with
  | nil =>
    rw [run, h.prompt, h.finish_exit]
    exact .ended s.world
  | cons b rest ih =>
    rw [List.map_cons, run, h.prompt]
    rcases hread : readLine b with e | line
    · cases e with
      | notText => exact .notText s.world _
      | cutsCharacter => exact .cutsCharacter s.world _
    · rcases hrun : s.runLine line with ⟨t, _ | code⟩ <;> simp only [hrun]
      · have hrest := ih (h.runLine hrun)
        rcases runLine_none hrun with hline | ⟨w, e, hline, hworld⟩
        · exact .continued hline hrest
        · rw [hworld] at hrest
          exact .failed hline hrest
      · rw [(h.runLine hrun).finish_exit]
        exact .exited _ (runLine_some hrun)

/-- A line without long clusters is read with each backspace erasing the cluster before it. -/
theorem readLine_of_short {line : String}
    (h : ∀ k ∈ Text.clusters line.toList, Text.byteLength k < Text.lengthPeriod) :
    readLine (Utf8.encode line) =
      .ok (String.ofList (Text.leftOf (Text.clusters line.toList)).flatten) := by
  simp only [readLine, Utf8.decode?_encode, Text.eraseBackspaces?_of_short h]

end Shell

/-! ## From the start -/

namespace World

variable {w : World}

/-- A shell starts without a complaint, can complain later on, and keeps no files of its own. -/
structure StartsPlainly (w : World) : Prop where
  /-- The settings, if there are any, are valid and name neither a log nor a history. -/
  settings : ∀ path text, Config.path? w.env = some path → w.store.readText w.cwd path = .ok text →
    ∃ c, Config.ofText text = .ok c ∧ c.logFile = none ∧ c.historyFile = none
  noPrompt : w.showsPrompt = false
  /-- Standard error takes all that is written to it. -/
  errors : w.stderr.room = none

theorem StartsPlainly.loadConfig (h : w.StartsPlainly) :
    ∃ c, w.loadConfig = (w, c) ∧ c.logFile = none ∧ c.historyFile = none := by
  rw [World.loadConfig]
  split
  · exact ⟨_, rfl, rfl, rfl⟩
  · next path hpath =>
    split
    · exact ⟨_, rfl, rfl, rfl⟩
    · next text htext =>
      obtain ⟨c, hc, hlog, hhistory⟩ := h.settings path text hpath htext
      rw [hc]
      exact ⟨c, rfl, hlog, hhistory⟩

/-- Starting has no effect outside. -/
theorem StartsPlainly.start (h : w.StartsPlainly) :
    (Shell.start w).world = w ∧ (Shell.start w).Quiet := by
  obtain ⟨c, hload, hlog, hhistory⟩ := h.loadConfig
  have hlogPath : c.logPath w.env = none := by
    rw [Config.logPath, hlog]
    rfl
  have hhistoryPath : c.historyPath w.env = none := by
    rw [Config.historyPath, hhistory]
    rfl
  have hstart : Shell.start w = ⟨w, c, { limit := c.historySize }⟩ := by
    simp only [Shell.start, hload, startLog, hlogPath, hhistoryPath]
  rw [hstart]
  exact ⟨rfl, hhistory, h.noPrompt⟩

/-- A program that was run has been called with the words of the command as its arguments and with
nothing to read. All that the shell takes from it is what it has written and left. -/
theorem call_of_runProgram {w' : World} {command : String} {args : List String} {o : Output}
    (h : w.runProgram command args = (w', .ok o)) :
    ∃ found, w.findProgram (w.argumentsFit (command :: args)) (Utf8.encode command) = .ok found ∧
      w'.launches = ⟨command, args, [], .started found.path⟩ :: w.launches ∧
      o = (w.programs found.program
        ⟨command, found.before ++ args.map Utf8.encode, w.cwd, w.env, [], w.launches.length⟩
        w.store).output := by
  cases hrequest : w.request command args with
  | error e =>
    rw [runProgram_refused hrequest] at h
    cases h
  | ok found =>
    have hargs : ∀ a ∈ args, nul ∉ a.toList := by
      intro a ha hnul
      rw [request_nul ⟨a, List.mem_cons_of_mem command ha, hnul⟩] at hrequest
      cases hrequest
    rw [runProgram_started hrequest] at h
    cases h
    rw [request_of_args hargs] at hrequest
    exact ⟨found, hrequest, congrArg (_ :: ·) (w.launches_ended command args found), rfl⟩

/-- A shell that starts plainly runs the lines of its input one after the other, each once, up to
the first that ends it, whatever the input and whatever programs do. A line without long clusters is
run as it stands once each backspace has erased the cluster before it. No program has any of the
lines to read: one that is run is called with nothing to read. -/
theorem runShell_eq_iff_session (h : w.StartsPlainly) :
    (∀ (input : Bytes) (w' : World) (n : Nat), w.runShell input = (w', n) ↔
      Shell.Session w ((Text.lines input).map Shell.readLine) w' n) ∧
    (∀ line : String, (∀ k ∈ Text.clusters line.toList, Text.byteLength k < Text.lengthPeriod) →
      Shell.readLine (Utf8.encode line) =
        .ok (String.ofList (Text.leftOf (Text.clusters line.toList)).flatten)) ∧
    ∀ (v v' : World) (command : String) (args : List String) (o : Output),
      v.runProgram command args = (v', .ok o) →
      ∃ found, v.findProgram (v.argumentsFit (command :: args)) (Utf8.encode command) = .ok found ∧
        v'.launches = ⟨command, args, [], .started found.path⟩ :: v.launches ∧
        o = (v.programs found.program
          ⟨command, found.before ++ args.map Utf8.encode, v.cwd, v.env, [], v.launches.length⟩
          v.store).output := by
  refine ⟨?_, fun line hshort => Shell.readLine_of_short hshort,
    fun v v' command args o hrun => call_of_runProgram hrun⟩
  intro input w' n
  obtain ⟨hworld, hquiet⟩ := h.start
  have hsession := Shell.session_run hquiet (Text.lines input)
  rw [hworld] at hsession
  have hrun : w.runShell input = ((Shell.start w).run (Text.lines input)).1.finish
      ((Shell.start w).run (Text.lines input)).2 := rfl
  rw [← hrun] at hsession
  constructor
  · intro heq
    rwa [heq] at hsession
  · intro hsession'
    obtain ⟨hworld', hstatus⟩ := hsession.unique hsession'
    rw [hworld', hstatus]

/-- A world with a settings file. -/
def withSettings : World where
  store := ⟨#[.dir [(Utf8.encode "rc", 1)] Store.root true,
    .file (.ofBytes (Utf8.encode "prompt = \"> \"\n")) Mode.plain]⟩
  env := [("MYSHELL_CONFIG", Utf8.encode "rc")]

theorem startsPlainly_withSettings : withSettings.StartsPlainly where
  settings := by
    intro path text hpath htext
    have hpath' : some path = some (Utf8.encode "rc") := hpath.symm.trans (by decide +kernel)
    cases hpath'
    have hread : (withSettings.store.readText withSettings.cwd (Utf8.encode "rc")).toOption =
        some "prompt = \"> \"\n" := by decide +kernel
    rw [htext] at hread
    cases hread
    have hconfig : (Config.ofText "prompt = \"> \"\n").toOption = some { prompt := "> " } := by
      decide +kernel
    cases hc : Config.ofText "prompt = \"> \"\n" with
    | error e =>
      rw [hc] at hconfig
      cases hconfig
    | ok c =>
      rw [hc] at hconfig
      cases hconfig
      exact ⟨_, rfl, rfl, rfl⟩
  noPrompt := by decide +kernel
  errors := rfl

/-- A line that fails, and one that ends the shell with a negative code. -/
def fourLines : Bytes :=
  Utf8.encode "echo hi\r\necho hi > no/f\nexit -1\necho no"

theorem runShell_fourLines :
    withSettings.StartsPlainly ∧
      Shell.Session withSettings
        [.ok "echo hi", .ok "echo hi > no/f", .ok "exit -1", .ok "echo no"]
        (withSettings.runShell fourLines).1 255 := by
  have hlines : (Text.lines fourLines).map Shell.readLine =
      [.ok "echo hi", .ok "echo hi > no/f", .ok "exit -1", .ok "echo no"] :=
    rfl
  have hstatus : (withSettings.runShell fourLines).2 = 255 := by decide +kernel
  rcases hrun : withSettings.runShell fourLines with ⟨w', n⟩
  rw [hrun] at hstatus
  subst hstatus
  have hsession := ((runShell_eq_iff_session startsPlainly_withSettings).1 fourLines w' 255).1 hrun
  rw [hlines] at hsession
  exact ⟨startsPlainly_withSettings, hsession⟩

/-- A line as it stands in the input. -/
def writtenLine (b : Bytes) : Except LineError String :=
  match Utf8.decode? b with
  | none => .error .notText
  | some line => .ok line

/-- A line with a backspace. -/
def erasedLine : Bytes :=
  Utf8.encode "echo ab\x08c\n"

/-- A line with a backspace is not run as it stands in the input. -/
theorem runShell_erasedLine :
    ¬ ∀ (w : World) (input : Bytes) (w' : World) (n : Nat), w.StartsPlainly →
      (w.runShell input = (w', n) ↔
        Shell.Session w ((Text.lines input).map writtenLine) w' n) := by
  intro h
  rcases hrun : withSettings.runShell erasedLine with ⟨w', n⟩
  have hsession := (h withSettings erasedLine w' n startsPlainly_withSettings).1 hrun
  have hlines : (Text.lines erasedLine).map writtenLine = [.ok "echo ab\x08c"] :=
    rfl
  rw [hlines] at hsession
  have hstdout : w'.stdout = (withSettings.runLine "echo ab\x08c").1.stdout := by
    cases hsession with
    | continued hline hrest =>
      cases hrest
      rw [hline]
    | failed hline hrest =>
      cases hrest
      rw [hline]
      rfl
    | exited _ hline => rw [hline]
  have hne : (withSettings.runShell erasedLine).1.stdout ≠
      (withSettings.runLine "echo ab\x08c").1.stdout := by decide +kernel
  rw [hrun] at hne
  exact hne hstdout

end World

end CommandShell
