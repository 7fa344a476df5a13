import CommandShell.Proofs.History.File
import CommandShell.Proofs.Shell.Session
import CommandShell.Proofs.Store.Absolute

/-!
# A shell keeps its history in a file

A shell reads its history when it starts, remembers the lines that it runs, and writes its history
when it ends. What the file holds in the end depends on what it held before, on the lines of the
input up to the first that ends the shell, and on nothing else.

* `ends_iff` — whether a line ends the shell does not depend on the world.
* `ran_run` — what a shell at work remembers of the lines that are left.
* `start_eq` — what a shell remembers when it starts.
* `history_of_runs` — what the file holds after one run, and after two.
-/

namespace CommandShell

namespace Shell

open World (SameSurroundings)

/-! ## The lines that are remembered -/

/-- Whether a line ends the shell: it asks for that, and its argument, if there is one, is a code.
-/
def ends (line : String) : Bool :=
  match (Command.ofLine line).args with
  | [] => false
  | command :: args => Builtin.ofName? command = some .exit && (Builtin.exitCode args).isOk

/-- Lines up to the first one that ends the shell, and with it. -/
def upToEnd : List String → List String
  | [] => []
  | line :: rest => if ends line then [line] else line :: upToEnd rest

/-- The lines that a shell remembers when it is given some: those that are run and are not blank. -/
def remembered (lines : List String) : List String :=
  (upToEnd lines).filter fun line => !Text.allBlank line

/-- The lines of an input as they are run, but for any in which a backspace cuts a character apart.
-/
def linesRun (input : String) : List String :=
  (Text.linesOf input).filterMap Text.eraseBackspaces?

theorem upToEnd_append {lines : List String} (h : ∀ line ∈ lines, ends line = false)
    (more : List String) : upToEnd (lines ++ more) = lines ++ upToEnd more := by
  induction lines with
  | nil => rfl
  | cons line rest ih =>
    have hline : ends line = false := h line List.mem_cons_self
    rw [List.cons_append, upToEnd, hline, ih fun l hl => h l (List.mem_cons_of_mem line hl)]
    rfl

theorem remembered_append {lines : List String} (h : ∀ line ∈ lines, ends line = false)
    (more : List String) : remembered (lines ++ more) = remembered lines ++ remembered more := by
  have hall : upToEnd lines = lines := by
    have hnil := upToEnd_append h []
    rwa [List.append_nil, upToEnd, List.append_nil] at hnil
  rw [remembered, remembered, remembered, upToEnd_append h, hall, List.filter_append]

theorem mem_of_mem_upToEnd {lines : List String} {line : String} (h : line ∈ upToEnd lines) :
    line ∈ lines := by
  induction lines with
  | nil => cases h
  | cons first rest ih =>
    rw [upToEnd] at h
    split at h
    · rw [List.mem_singleton.1 h]
      exact List.mem_cons_self
    · rcases List.mem_cons.1 h with rfl | h
      · exact List.mem_cons_self
      · exact List.mem_cons_of_mem first (ih h)

theorem mem_of_mem_remembered {lines : List String} {line : String} (h : line ∈ remembered lines) :
    line ∈ lines :=
  mem_of_mem_upToEnd (List.mem_filter.1 h).1

/-- An empty line is blank. -/
theorem ne_of_mem_remembered {lines : List String} {line : String} (h : line ∈ remembered lines) :
    line ≠ "" := by
  rintro rfl
  have hblank := (List.mem_filter.1 h).2
  cases hblank

/-- A line without a carriage return in it is stored as it is. -/
theorem storable_of_mem_remembered {input line : String} (hreturn : '\r' ∉ input.toList)
    (h : line ∈ remembered (linesRun input)) : History.Storable line := by
  refine ⟨ne_of_mem_remembered h, fun hlast => hreturn ?_⟩
  obtain ⟨l, hl, herase⟩ := List.mem_filterMap.1 (mem_of_mem_remembered h)
  exact Text.mem_of_mem_linesOf hl
    (Text.mem_of_mem_eraseBackspaces herase (List.mem_of_getLast? hlast))

/-! ## One line -/

theorem dispatch_eq_exit_iff (w : World) (command : String) (args : List String) (code : Int) :
    (w.dispatch command args).2 = .exit code ↔
      Builtin.ofName? command = some .exit ∧ Builtin.exitCode args = .ok code := by
  rw [World.dispatch]
  split
  · next hname =>
    cases hcode : Builtin.exitCode args with
    | ok n => simp [hname]
    | error e => simp [hname]
  · next b hne hname =>
    have hb : b ≠ .exit := hne
    simp [hname, hb]
  · next hname =>
    split <;> simp [hname]

/-- Whether a line ends the shell does not depend on the world. -/
theorem ends_iff (w : World) (line : String) :
    ends line = true ↔ ∃ code, (w.runLine line).2 = .ok (.exit code) := by
  cases hargs : (Command.ofLine line).args with
  | nil => simp [ends, World.runLine, hargs]
  | cons command args =>
    have hends : ends line = true ↔
        ∃ code, Builtin.ofName? command = some .exit ∧ Builtin.exitCode args = .ok code := by
      simp only [ends, hargs, Bool.and_eq_true, decide_eq_true_eq]
      cases Builtin.exitCode args <;> simp [Except.isOk, Except.toBool]
    have hexit (code : Int) := dispatch_eq_exit_iff
      (w.log (World.argvRecord (Command.ofLine line))) command args code
    simp only [hends, ← hexit, World.runLine_of_args w hargs]
    rcases (w.log (World.argvRecord (Command.ofLine line))).dispatch command args
      with ⟨w', o | code⟩
    · cases hroute : (w'.route o (Command.ofLine line).redirections).2 <;>
        simp [Except.map, hroute]
    · simp

/-- Remembers a line that is not blank. -/
theorem remember_history (s : Shell) (line : String) :
    (s.remember line).history =
      ([line].filter fun l => !Text.allBlank l).foldl History.add s.history := by
  rw [remember]
  cases hblank : Text.allBlank line <;> simp [hblank]

variable {s t : Shell} {line : String} {code : Option Int}

theorem runLine_isSome (h : s.runLine line = (t, code)) : code.isSome = ends line := by
  rw [Bool.eq_iff_iff, ends_iff s.world]
  cases code with
  | some code =>
    rw [runLine_some h]
    simp
  | none =>
    rcases runLine_none h with hline | ⟨w, e, hline, _⟩
    · simp [hline]
    · simp [hline]

theorem runLine_history (h : s.runLine line = (t, code)) :
    t.history =
      ([line].filter fun l => !Text.allBlank l).foldl History.add s.history := by
  rw [← remember_history]
  rw [runLine] at h
  split at h <;> cases h <;> rfl

/-! ## A shell at work -/

/-- A line is read as it is left by its backspaces. -/
theorem readLine_encode {l : String} (h : Text.eraseBackspaces? l = some line) :
    readLine (Utf8.encode l) = .ok line := by
  simp only [readLine, Utf8.decode?_encode, h]

theorem readLine_encode_none {l : String} (h : Text.eraseBackspaces? l = none) :
    readLine (Utf8.encode l) = .error .cutsCharacter := by
  simp only [readLine, Utf8.decode?_encode, h]

/-- What lines do to a shell, apart from what they do to the world. -/
structure Ran (s : Shell) (lines : List String) (r : Shell × Ending) : Prop where
  exits : ∃ code, r.2 = .exit code
  config : r.1.config = s.config
  history : r.1.history = (remembered lines).foldl History.add s.history
  surroundings : SameSurroundings s.world r.1.world

theorem prompt_config (s : Shell) : s.prompt.config = s.config := by
  rw [prompt]
  split <;> rfl

theorem prompt_history (s : Shell) : s.prompt.history = s.history := by
  rw [prompt]
  split <;> rfl

theorem sameSurroundings_prompt (s : Shell) : SameSurroundings s.world s.prompt.world := by
  rw [prompt]
  split
  · exact (s.world.outputOnly_print _).toSameSurroundings
  · exact .refl s.world

/-- The shell remembers the lines of its input up to the first that ends it, unless it breaks down
before. -/
theorem ran_run (s : Shell) (lines : List String)
    (hreadable : (s.run (lines.map Utf8.encode)).2 ≠ .unreadable .cutsCharacter) :
    Ran s (lines.filterMap Text.eraseBackspaces?) (s.run (lines.map Utf8.encode)) := by
  induction lines generalizing s with
  | nil => exact ⟨⟨0, rfl⟩, s.prompt_config, s.prompt_history, s.sameSurroundings_prompt⟩
  | cons l rest ih =>
    rw [List.map_cons, run] at hreadable ⊢
    cases herase : Text.eraseBackspaces? l with
    | none =>
      rw [readLine_encode_none herase] at hreadable
      exact absurd rfl hreadable
    | some line =>
      rw [List.filterMap_cons_some herase]
      simp only [readLine_encode herase] at hreadable ⊢
      rcases hrun : s.prompt.runLine line with ⟨t, code⟩
      simp only [hrun] at hreadable ⊢
      have hends := runLine_isSome hrun
      have hhistory := runLine_history hrun
      have hconfig := s.prompt.config_runLine line
      have hsame := s.sameSurroundings_prompt.trans (sameSurroundings_runLine hrun)
      rw [prompt_history] at hhistory
      rw [hrun, prompt_config] at hconfig
      cases code with
      | some code =>
        have hended : ends line = true := hends.symm
        refine ⟨⟨code, rfl⟩, hconfig, ?_, hsame⟩
        rw [remembered, upToEnd, if_pos hended]
        exact hhistory
      | none =>
        obtain ⟨hexits, hconfig', hhistory', hsame'⟩ := ih t hreadable
        refine ⟨hexits, hconfig'.trans hconfig, ?_, hsame.trans hsame'⟩
        have hcontinues : ¬ ends line = true := by simp [← hends]
        rw [hhistory', hhistory, ← List.foldl_append, remembered, remembered, upToEnd,
          if_neg hcontinues, ← List.filter_append, List.singleton_append]

end Shell

/-! ## From the start to the end -/

namespace World

open History (given loaded reopened fileAfter AddsNone)

variable {w : World} {path : String} {old : Option String}

/-- Reading the settings may give cause for a complaint. -/
theorem outputOnly_loadConfig (w : World) :
    OutputOnly w w.loadConfig.1 ∧ w.loadConfig.1.store = w.store := by
  rw [loadConfig]
  split
  · exact ⟨.refl w, rfl⟩
  · split
    · exact ⟨.refl w, rfl⟩
    · split
      · exact ⟨.refl w, rfl⟩
      · exact ⟨w.outputOnly_complain _, rfl⟩

/-- Starting the log opens at most one file. -/
theorem startLog_store (w : World) (c : Config) :
    (w.startLog c).1.env = w.env ∧ (w.startLog c).1.room = w.room ∧
      Store.OpenedToAppend w.store (w.startLog c).1.store := by
  rw [startLog]
  split
  · exact ⟨rfl, rfl, Or.inl rfl⟩
  · split
    · exact ⟨rfl, rfl, Or.inl rfl⟩
    · split
      · exact ⟨rfl, rfl, Or.inl rfl⟩
      · next s file hopen =>
        have hopened := Store.openedToAppend_of_openFile hopen
        rw [installLogger]
        split <;> exact ⟨rfl, rfl, hopened⟩

/-- A history file that is a text, or missing, is read without a warning. -/
theorem loadHistory_eq (habsolute : Path.IsAbsolute (Utf8.encode path))
    (hold : w.store.HoldsText (Utf8.encode path) old) (n : Nat) :
    w.loadHistory path { limit := n } = (w, reopened n old) := by
  have hlookup := Store.lookup_of_isAbsolute habsolute w.store w.cwd Store.root
  rw [loadHistory]
  cases old with
  | none =>
    have hexists : w.store.pathExists w.cwd (Utf8.encode path) = false := by
      rw [Store.pathExists, hlookup]
      exact hold
    rw [hexists]
    rfl
  | some t =>
    obtain ⟨id, c, m, hfound, hnode, hbytes⟩ := Store.fileBytes?_eq_some.1 hold
    rw [hfound] at hlookup
    have hexists : w.store.pathExists w.cwd (Utf8.encode path) = true := by
      rw [Store.pathExists, hlookup]
      rfl
    have hread : w.store.read w.cwd (Utf8.encode path) = .ok (Utf8.encode t) := by
      rw [Store.read, hlookup]
      simp only [hnode, hbytes]
    simp only [hexists, if_true, hread, History.addFile_encode, reopened, given]

/-- It makes no difference if the log is started before. -/
theorem loadHistory_opened {v : World} (habsolute : Path.IsAbsolute (Utf8.encode path))
    (hold : w.store.HoldsText (Utf8.encode path) old)
    (hopened : Store.OpenedToAppend w.store v.store) (n : Nat) :
    v.loadHistory path { limit := n } = (v, reopened n old) := by
  rcases hopened.holdsText hold with hsame | ⟨rfl, hnew⟩
  · exact loadHistory_eq habsolute hsame n
  · exact loadHistory_eq habsolute hnew n

/-- A shell that starts holds what it has read from its history file. -/
theorem start_eq (hfile : w.loadConfig.2.historyPath w.env = some path)
    (habsolute : Path.IsAbsolute (Utf8.encode path))
    (hold : w.store.HoldsText (Utf8.encode path) old) :
    ∃ v, v.env = w.env ∧ v.room = w.room ∧
      Shell.start w = ⟨v, w.loadConfig.2, reopened w.loadConfig.2.historySize old⟩ := by
  obtain ⟨hload, hloadStore⟩ := w.outputOnly_loadConfig
  rw [Shell.start]
  rcases hconfig : w.loadConfig with ⟨u, c⟩
  rw [hconfig] at hfile hload hloadStore
  obtain ⟨hlogEnv, hlogRoom, hopened⟩ := u.startLog_store c
  rw [hload.env] at hlogEnv
  rw [hload.room] at hlogRoom
  rw [hloadStore] at hopened
  rcases hlog : u.startLog c with ⟨v, e | _⟩
  all_goals
    rw [hlog] at hlogEnv hlogRoom hopened
    simp only [hlog]
  · generalize hcomplaint : v.complain ("myshell: " ++ e.message ++ "\n") = v'
    have henv : v'.env = w.env := hcomplaint ▸ hlogEnv
    have hroom : v'.room = w.room := hcomplaint ▸ hlogRoom
    have hopened' : Store.OpenedToAppend w.store v'.store := hcomplaint ▸ hopened
    refine ⟨v', henv, hroom, ?_⟩
    simp only [henv, hfile, loadHistory_opened habsolute hold hopened']
  · have henv : v.env = w.env := hlogEnv
    refine ⟨v, henv, hlogRoom, ?_⟩
    simp only [henv, hfile, loadHistory_opened habsolute hold hopened]

/-- A history is written in place of what the file holds, if there is room for it. -/
theorem overwrite_target {p : Store.Place} {text : String}
    (habsolute : Path.IsAbsolute (Utf8.encode path))
    (htarget : Store.Target w.store Store.root (Utf8.encode path) p)
    (hroom : w.RoomFor (Utf8.encode text)) :
    ∃ s, w.overwrite path text = ({ w with store := s }, .ok ()) ∧
      s.HoldsText (Utf8.encode path) (some text) := by
  have hhere : Store.Target w.store w.cwd (Utf8.encode path) p := htarget.of_isAbsolute habsolute
  obtain ⟨t, id, hopen, hstored⟩ := Store.openFile_target hhere .truncate
  obtain ⟨c, m, hnode, _⟩ := hstored.holds
  have htakes : Takes { w with store := t } .shell id (Utf8.encode text) :=
    RoomFor.takes (w := { w with store := t }) hroom hnode .shell
  have hstored' := hstored.append (Utf8.encode text)
  refine ⟨t.append id (Utf8.encode text), ?_, ?_⟩
  · simp only [overwrite, hopen, append_of_takes htakes]
  · obtain ⟨c', m', hnode', hbytes⟩ := hstored'.holds
    have hfound := (hstored'.fileAt_self htarget).1
    exact Store.fileBytes?_eq_some.2 ⟨id, c', m', hfound, hnode', hbytes⟩

/-- A history to which lines have been added is written. -/
theorem saveHistory_changed {h : History} {p : Store.Place} (hchanged : h.changed = true)
    (habsolute : Path.IsAbsolute (Utf8.encode path))
    (htarget : Store.Target w.store Store.root (Utf8.encode path) p)
    (hroom : w.RoomFor (Utf8.encode h.toText)) :
    (w.saveHistory path h).store.HoldsText (Utf8.encode path) (some h.toText) := by
  obtain ⟨s, hwrite, hholds⟩ := overwrite_target habsolute htarget hroom
  rw [saveHistory, hchanged, hwrite]
  exact hholds

theorem saveHistory_unchanged {h : History} (hchanged : h.changed = false) (w : World)
    (path : String) : w.saveHistory path h = w := by
  rw [saveHistory, hchanged]
  rfl

/-! ## One run, and two -/

/-- The shell when it has run its input, and how its work ends. -/
def work (w : World) (input : String) : Shell × Ending :=
  (Shell.start w).run (Text.lines (Utf8.encode input))

/-- The world when a shell has run its input, and before it ends. -/
def afterLines (w : World) (input : String) : World :=
  (w.work input).1.world

/-- A shell keeps a history of some size in a file that the lines it runs have no effect on. -/
structure KeepsHistory (w : World) (path : String) (n : Nat) (input : String) : Prop where
  file : w.loadConfig.2.historyPath w.env = some path
  size : w.loadConfig.2.historySize = n
  absolute : Path.IsAbsolute (Utf8.encode path)
  /-- The file can be written, or can be created, when the lines have been run. -/
  writable : ∃ p, Store.Target (w.afterLines input).store Store.root (Utf8.encode path) p
  /-- There is room for the history. -/
  roomy : w.RoomFor (Utf8.encode (w.work input).1.history.toText)
  /-- The file holds what it held when the lines have been run. -/
  untouched : ∀ old, w.store.HoldsText (Utf8.encode path) old →
    (w.afterLines input).store.HoldsText (Utf8.encode path) old
  /-- No backspace in a line that is read cuts a character apart. -/
  readable : (w.work input).2 ≠ .unreadable .cutsCharacter
  /-- Standard error takes all that is written to it. -/
  errors : w.stderr.room = none

/-- The world in which the next shell starts. It has the files that a run has left, and apart from
that nothing is left. -/
def afterRun (w : World) (input : String) : World :=
  { w with store := (w.runShell (Utf8.encode input)).1.store }

/-- What there is when the lines have been run. -/
theorem KeepsHistory.run {n : Nat} {input : String} (h : w.KeepsHistory path n input)
    (hold : w.store.HoldsText (Utf8.encode path) old) :
    ∃ t code, w.work input = (t, .exit code) ∧
      t.config.historyPath t.world.env = some path ∧
      t.history = (Shell.remembered (Shell.linesRun input)).foldl History.add (reopened n old) ∧
      t.world.room = w.room := by
  obtain ⟨v, hvenv, hvroom, hstart⟩ := start_eq h.file h.absolute hold
  have hreadable := h.readable
  rw [work, Text.lines_encode] at hreadable ⊢
  have hran := Shell.ran_run (Shell.start w) (Text.linesOf input) hreadable
  generalize (Shell.start w).run ((Text.linesOf input).map Utf8.encode) = r at hran ⊢
  obtain ⟨t, ending⟩ := r
  obtain ⟨⟨code, hending⟩, hconfig, hhistory, hsame⟩ := hran
  rw [hstart] at hconfig hhistory hsame
  rw [h.size] at hhistory
  refine ⟨t, code, congrArg (Prod.mk t) hending, ?_, hhistory, hsame.room.trans hvroom⟩
  rw [hconfig, hsame.env, hvenv]
  exact h.file

/-- What a run leaves in the history file. If no line is added, it does nothing after its lines. -/
theorem runShell_history {n : Nat} {input : String} (h : w.KeepsHistory path n input)
    (hold : w.store.HoldsText (Utf8.encode path) old) :
    (w.runShell (Utf8.encode input)).1.store.HoldsText (Utf8.encode path)
        (fileAfter n old (Shell.remembered (Shell.linesRun input))) ∧
      (AddsNone n old (Shell.remembered (Shell.linesRun input)) →
        (w.runShell (Utf8.encode input)).1 = w.afterLines input) := by
  have huntouched := h.untouched old hold
  obtain ⟨p, hp⟩ := h.writable
  have hroomy := h.roomy
  obtain ⟨t, code, hrun, hpath, hhistory, hroom⟩ := h.run hold
  have hfinish : (w.runShell (Utf8.encode input)).1 = t.world.saveHistory path t.history := by
    rw [work] at hrun
    simp only [runShell, hrun, Shell.finish, hpath]
  rw [afterLines, hrun] at huntouched hp ⊢
  rw [hrun, RoomFor, ← hroom] at hroomy
  rw [hfinish, fileAfter]
  have hlines : ∀ line ∈ Shell.remembered (Shell.linesRun input), line ≠ "" :=
    fun _ => Shell.ne_of_mem_remembered
  generalize Shell.remembered (Shell.linesRun input) = lines at hhistory hlines ⊢
  have hchanged : t.history.changed = true ↔ ¬ AddsNone n old lines := by
    rw [hhistory]
    exact History.changed_foldl_add_reopened hlines
  by_cases hnone : AddsNone n old lines
  · have hunchanged : t.history.changed = false := by
      rw [Bool.eq_false_iff, Ne, hchanged, not_not]
      exact hnone
    rw [if_pos hnone, saveHistory_unchanged hunchanged]
    exact ⟨huntouched, fun _ => rfl⟩
  · have hn : n ≠ 0 := fun hn => hnone (Or.inl hn)
    have hsaved := saveHistory_changed (hchanged.2 hnone) h.absolute hp hroomy
    rw [hhistory, History.toText_foldl_add_reopened hn hlines, ← hhistory] at hsaved
    rw [if_neg hnone]
    exact ⟨hsaved, fun hadds => absurd hadds hnone⟩

/-- A shell leaves in its history file what it read from it and the lines it ran. Two shells that
run one after the other leave the same as one that runs the lines of both, unless something in the
file ended in a carriage return, which cannot be written back. -/
theorem history_of_runs {n : Nat} (hold : w.store.HoldsText (Utf8.encode path) old) :
    (∀ input, w.KeepsHistory path n input →
      (w.runShell (Utf8.encode input)).1.store.HoldsText (Utf8.encode path)
          (fileAfter n old (Shell.remembered (Shell.linesRun input))) ∧
        (AddsNone n old (Shell.remembered (Shell.linesRun input)) →
          (w.runShell (Utf8.encode input)).1 = w.afterLines input)) ∧
    ∀ first second, n ≠ 0 → (first = "" ∨ first.toList.getLast? = some '\n') →
      (∀ line ∈ Shell.linesRun first, Shell.ends line = false) → '\r' ∉ first.toList →
      (∀ line ∈ loaded n old, line.toList.getLast? ≠ some '\r') →
      w.KeepsHistory path n first → (w.afterRun first).KeepsHistory path n second →
      w.KeepsHistory path n (first ++ second) →
      ∃ new,
        ((w.afterRun first).runShell (Utf8.encode second)).1.store.HoldsText (Utf8.encode path)
          new ∧
        (w.runShell (Utf8.encode (first ++ second))).1.store.HoldsText (Utf8.encode path) new := by
  constructor
  · intro input hkeeps
    exact runShell_history hkeeps hold
  · intro first second hn hcomplete hgoesOn hreturn hstored hfirst hsecond hboth
    have hleft := (runShell_history hfirst hold).1
    have htwice := (runShell_history hsecond hleft).1
    have honce := (runShell_history hboth hold).1
    have hlines : Shell.linesRun (first ++ second) =
        Shell.linesRun first ++ Shell.linesRun second := by
      rw [Shell.linesRun, Text.linesOf_append hcomplete, List.filterMap_append]
      rfl
    rw [History.fileAfter_append hn hstored fun _ => Shell.storable_of_mem_remembered hreturn,
      ← Shell.remembered_append hgoesOn, ← hlines] at htwice
    exact ⟨_, htwice, honce⟩

/-- A world with a shell that keeps its last three lines in a file with a text. -/
def withHistory (text : String) : World where
  store := ⟨#[.dir [(Utf8.encode "rc", 1), (Utf8.encode "h", 2)] Store.root true,
    .file (.ofBytes (Utf8.encode "history_file = \"/h\"\nhistory_size = 3\n")) Mode.plain,
    .file (.ofBytes (Utf8.encode text)) Mode.plain]⟩
  env := [("MYSHELL_CONFIG", Utf8.encode "/rc")]

/-- The lines of an input have no effect on a file if they leave in it the text that it held. -/
theorem keepsHistory_of_holdsText {n : Nat} {input text : String}
    (hfile : w.loadConfig.2.historyPath w.env = some path)
    (hsize : w.loadConfig.2.historySize = n) (habsolute : Path.IsAbsolute (Utf8.encode path))
    (hbefore : w.store.HoldsText (Utf8.encode path) (some text))
    (hafter : (w.afterLines input).store.HoldsText (Utf8.encode path) (some text))
    (hroomy : w.RoomFor (Utf8.encode (w.work input).1.history.toText))
    (hreadable : (w.work input).2 ≠ .unreadable .cutsCharacter)
    (herrors : w.stderr.room = none) : w.KeepsHistory path n input where
  file := hfile
  size := hsize
  absolute := habsolute
  writable := hafter.exists_target
  roomy := hroomy
  untouched := fun _ hold => hold.unique hbefore ▸ hafter
  readable := hreadable
  errors := herrors

/-- The second shell adds a line, and the oldest one makes room for it. -/
theorem history_of_runs_withHistory :
    (withHistory "a\nb\n").store.HoldsText (Utf8.encode "/h") (some "a\nb\n") ∧
      ∃ new, new = some "#V2\nb\nc\nexit\n" ∧
        (((withHistory "a\nb\n").afterRun "b\nc\n").runShell
          (Utf8.encode "exit\nd\n")).1.store.HoldsText (Utf8.encode "/h") new ∧
        ((withHistory "a\nb\n").runShell
          (Utf8.encode ("b\nc\n" ++ "exit\nd\n"))).1.store.HoldsText (Utf8.encode "/h") new := by
  have hold : (withHistory "a\nb\n").store.HoldsText (Utf8.encode "/h") (some "a\nb\n") := by
    decide +kernel
  have hfirst : (withHistory "a\nb\n").KeepsHistory "/h" 3 "b\nc\n" :=
    keepsHistory_of_holdsText (by decide +kernel) (by decide +kernel) (by decide +kernel) hold
      (by decide +kernel) (fun _ _ => Nat.le_refl _) (by decide +kernel) rfl
  have hboth : (withHistory "a\nb\n").KeepsHistory "/h" 3 ("b\nc\n" ++ "exit\nd\n") :=
    keepsHistory_of_holdsText hfirst.file hfirst.size hfirst.absolute hold (by decide +kernel)
      (fun _ _ => Nat.le_refl _) (by decide +kernel) rfl
  have hleft : ((withHistory "a\nb\n").afterRun "b\nc\n").store.HoldsText (Utf8.encode "/h")
      (some "#V2\na\nb\nc\n") := by decide +kernel
  have hsecond : ((withHistory "a\nb\n").afterRun "b\nc\n").KeepsHistory "/h" 3 "exit\nd\n" :=
    keepsHistory_of_holdsText (by decide +kernel) (by decide +kernel) hfirst.absolute hleft
      (by decide +kernel) (fun _ _ => Nat.le_refl _) (by decide +kernel) rfl
  obtain ⟨hrun, hruns⟩ := history_of_runs (n := 3) hold
  obtain ⟨new, htwice, honce⟩ := hruns "b\nc\n" "exit\nd\n" (by decide) (by decide)
    (by decide +kernel) (by decide) (by decide +kernel) hfirst hsecond hboth
  have hboth' := (hrun _ hboth).1
  have hnew : fileAfter 3 (some "a\nb\n")
      (Shell.remembered (Shell.linesRun ("b\nc\n" ++ "exit\nd\n"))) =
        some "#V2\nb\nc\nexit\n" := by
    decide +kernel
  exact ⟨hold, new, (honce.unique hboth').trans hnew, htwice, honce⟩

/-- A line that ends in a carriage return is written, but not read back. -/
theorem history_lost_withReturn :
    ¬ ∀ (w : World) (path : String) (n : Nat) (old : Option String) (first second : String),
      w.store.HoldsText (Utf8.encode path) old → n ≠ 0 →
      (first = "" ∨ first.toList.getLast? = some '\n') →
      (∀ line ∈ Shell.linesRun first, Shell.ends line = false) → '\r' ∉ first.toList →
      '\r' ∉ second.toList → w.KeepsHistory path n first →
      (w.afterRun first).KeepsHistory path n second → w.KeepsHistory path n (first ++ second) →
      ∃ new,
        ((w.afterRun first).runShell (Utf8.encode second)).1.store.HoldsText (Utf8.encode path)
          new ∧
        (w.runShell (Utf8.encode (first ++ second))).1.store.HoldsText (Utf8.encode path) new := by
  intro h
  have hold : (withHistory "a\r\r\n").store.HoldsText (Utf8.encode "/h") (some "a\r\r\n") := by
    decide +kernel
  have hfirst : (withHistory "a\r\r\n").KeepsHistory "/h" 3 "b\n" :=
    keepsHistory_of_holdsText (by decide +kernel) (by decide +kernel) (by decide +kernel) hold
      (by decide +kernel) (fun _ _ => Nat.le_refl _) (by decide +kernel) rfl
  have hboth : (withHistory "a\r\r\n").KeepsHistory "/h" 3 ("b\n" ++ "c\n") :=
    keepsHistory_of_holdsText hfirst.file hfirst.size hfirst.absolute hold (by decide +kernel)
      (fun _ _ => Nat.le_refl _) (by decide +kernel) rfl
  have hleft : ((withHistory "a\r\r\n").afterRun "b\n").store.HoldsText (Utf8.encode "/h")
      (some "#V2\na\r\nb\n") := by decide +kernel
  have hsecond : ((withHistory "a\r\r\n").afterRun "b\n").KeepsHistory "/h" 3 "c\n" :=
    keepsHistory_of_holdsText (by decide +kernel) (by decide +kernel) hfirst.absolute hleft
      (by decide +kernel) (fun _ _ => Nat.le_refl _) (by decide +kernel) rfl
  obtain ⟨new, htwice, honce⟩ := h (withHistory "a\r\r\n") "/h" 3 (some "a\r\r\n") "b\n" "c\n"
    hold (by decide) (by decide) (by decide +kernel) (by decide) (by decide) hfirst hsecond hboth
  have htwice' : (((withHistory "a\r\r\n").afterRun "b\n").runShell
      (Utf8.encode "c\n")).1.store.HoldsText (Utf8.encode "/h") (some "#V2\na\nb\nc\n") := by
    decide +kernel
  have honce' : ((withHistory "a\r\r\n").runShell
      (Utf8.encode ("b\n" ++ "c\n"))).1.store.HoldsText (Utf8.encode "/h")
        (some "#V2\na\r\nb\nc\n") := by
    decide +kernel
  have hsame : some "#V2\na\nb\nc\n" = some "#V2\na\r\nb\nc\n" :=
    (htwice.unique htwice').symm.trans (honce.unique honce')
  exact absurd hsame (by decide)

end World

end CommandShell
