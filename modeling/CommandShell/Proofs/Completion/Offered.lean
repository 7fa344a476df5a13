import CommandShell.Completion.Names
import CommandShell.Proofs.Dispatch.Search

/-!
# The commands that are offered

Completion offers the builtin commands and all that the directories of the search path list. What it
offers is a command unless no directory of the search path has a file of that name that may be run:
a directory, a file without an execute bit and a link that leads nowhere are offered as well.

* `mem_commandNames_iff` — which names are offered.
* `offered_without_command_iff` — which of them are not commands.
-/

namespace CommandShell

open Store

theorem Utf8.decode?_eq_some_iff {b : Bytes} {s : String} : decode? b = some s ↔ encode s = b := by
  constructor
  · intro h
    unfold decode? String.fromUTF8? at h
    split at h
    · cases h
      exact b.toList_toArray
    · cases h
  · rintro rfl
    exact decode?_encode s

/-- A builtin command is one of the list. -/
theorem Builtin.isSome_ofName?_iff {name : String} :
    (ofName? name).isSome = true ↔ name ∈ all.map Builtin.name := by
  rw [ofName?, List.find?_isSome, List.mem_map]
  simp only [decide_eq_true_eq]

/-- What a path leads to is not to be run exactly if it is no file with an execute bit. -/
theorem Store.isRunnable_eq_false_iff {s : Store} {cwd : NodeId} {path : Bytes} :
    s.isRunnable cwd path = false ↔
      ∀ id c m, s.lookup cwd path = .ok id → s.node? id = some (.file c m) → m.canRun = false := by
  unfold isRunnable
  constructor
  · intro h id c m hlookup hnode
    simp only [hlookup, hnode] at h
    exact h
  · intro h
    split
    · rfl
    · next id hlookup =>
      split
      · next c m hnode => exact h id c m hlookup hnode
      · rfl

namespace World

variable {w : World} {start name : String}

/-- A directory of the search path lists a name. -/
def Listed (w : World) (name : String) : Prop :=
  ∃ dir ∈ w.searchDirs, ∃ names, w.store.namesIn w.cwd (Utf8.encode dir) = .ok names ∧
    Utf8.encode name ∈ names

/-- A name is that of a builtin command, or the search path has a file for it. -/
def IsCommand (w : World) (name : String) : Prop :=
  (Builtin.ofName? name).isSome = true ∨ ∃ path, w.fullPath name = some path

theorem mem_textNamesIn_iff {dir : Bytes} :
    name ∈ w.textNamesIn dir start ↔
      start.toList <+: name.toList ∧
        ∃ names, w.store.namesIn w.cwd dir = .ok names ∧ Utf8.encode name ∈ names := by
  unfold textNamesIn
  cases hnames : w.store.namesIn w.cwd dir with
  | error e => simp
  | ok names =>
    simp only [List.mem_filter, List.mem_filterMap, Utf8.decode?_eq_some_iff,
      List.isPrefixOf_iff_prefix]
    constructor
    · rintro ⟨⟨b, hb, rfl⟩, hstart⟩
      exact ⟨hstart, names, rfl, hb⟩
    · rintro ⟨hstart, names', heq, hb⟩
      cases heq
      exact ⟨⟨_, hb, rfl⟩, hstart⟩

/-- All builtin commands and all listed names are offered that begin with what has been typed. -/
theorem mem_commandNames_iff :
    name ∈ w.commandNames start ↔
      start.toList <+: name.toList ∧
        ((Builtin.ofName? name).isSome = true ∨ w.Listed name) := by
  rw [commandNames, mem_sortNames, List.mem_append, List.mem_filter, List.mem_flatMap,
    List.isPrefixOf_iff_prefix, Builtin.isSome_ofName?_iff]
  simp only [mem_textNamesIn_iff, Listed]
  constructor
  · rintro (⟨hbuiltin, hstart⟩ | ⟨dir, hdir, hstart, hlisted⟩)
    · exact ⟨hstart, .inl hbuiltin⟩
    · exact ⟨hstart, .inr ⟨dir, hdir, hlisted⟩⟩
  · rintro ⟨hstart, hbuiltin | ⟨dir, hdir, hlisted⟩⟩
    · exact .inl ⟨hbuiltin, hstart⟩
    · exact .inr ⟨dir, hdir, hstart, hlisted⟩

theorem fullPath_eq_none_iff :
    w.fullPath name = none ↔
      ∀ path ∈ w.candidates name, w.store.isRunnable w.cwd (Utf8.encode path) = false := by
  rw [fullPath_eq_find?, List.find?_eq_none]
  simp only [Bool.not_eq_true]

/-- The names that are offered and are not commands: they begin with what has been typed, they are
not builtin, some directory of the search path lists them, and in none of these directories they
lead to a file that may be run. -/
theorem offered_without_command_iff (w : World) (start name : String) :
    (name ∈ w.commandNames start ∧ ¬ w.IsCommand name) ↔
      start.toList <+: name.toList ∧ (Builtin.ofName? name).isSome = false ∧ w.Listed name ∧
        ∀ path ∈ w.candidates name, ∀ id c m,
          w.store.lookup w.cwd (Utf8.encode path) = .ok id →
            w.store.node? id = some (.file c m) → m.canRun = false := by
  have hcommand : ¬ w.IsCommand name ↔
      (Builtin.ofName? name).isSome = false ∧ w.fullPath name = none := by
    rw [IsCommand, not_or, Bool.not_eq_true, ← Option.isSome_iff_exists,
      Option.not_isSome_iff_eq_none]
  rw [mem_commandNames_iff, hcommand, fullPath_eq_none_iff]
  simp only [isRunnable_eq_false_iff]
  constructor
  · rintro ⟨⟨hstart, hoffered⟩, hbuiltin, hpaths⟩
    refine ⟨hstart, hbuiltin, ?_, hpaths⟩
    rcases hoffered with hname | hlisted
    · rw [hbuiltin] at hname
      cases hname
    · exact hlisted
  · rintro ⟨hstart, hbuiltin, hlisted, hpaths⟩
    exact ⟨⟨hstart, .inr hlisted⟩, hbuiltin, hpaths⟩

/-- A world with a directory on the search path that holds a file that nobody may run. -/
def withReadme : World where
  store := ⟨#[.dir [(Utf8.encode "bin", 1)] Store.root true,
    .dir [(Utf8.encode "readme", 2)] Store.root true,
    .file (.ofBytes (Utf8.encode "x")) Mode.plain]⟩
  env := [("PATH", Utf8.encode "/bin")]

/-- A file that nobody may run is offered as a command. -/
theorem readme_offered :
    ¬ ∀ (w : World) (start name : String), name ∈ w.commandNames start → w.IsCommand name := by
  intro h
  rcases h withReadme "rea" "readme" (by decide +kernel) with hbuiltin | ⟨path, hpath⟩
  · revert hbuiltin
    decide
  · have hnone : withReadme.fullPath "readme" = none := by decide +kernel
    rw [hnone] at hpath
    cases hpath

end World

end CommandShell
