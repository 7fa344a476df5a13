import CommandShell.Proofs.Dispatch.Search
import CommandShell.Proofs.Store.Listed

/-!
# Names that are paths

A name with a separator is a path for the system, which looks there and nowhere else. The builtin
`type` looks for it below the directories of the search path, as for any other name. So the two
agree on such a name only where something below the search path happens to stand for what is at the
path itself.

* `searched_iff` — when `type` finds a file for a name.
* `request_of_separator` — what the system does when it is asked for a path.
* `type_agrees_on_path_iff` — the condition under which the two agree.
-/

namespace CommandShell

open Store

/-- No builtin command has a name with a separator. -/
theorem Builtin.ofName?_of_separator {name : String} (h : '/' ∈ name.toList) :
    ofName? name = none := by
  cases hname : ofName? name with
  | none => rfl
  | some b =>
    have heq : b.name = name := by simpa using List.find?_some hname
    rw [← heq] at h
    cases b <;> exact absurd h (by decide)

namespace World

variable {w : World} {name : String}

/-- A path leads to a file that may be run. -/
def CanRun (w : World) (path : String) : Prop :=
  w.store.isRunnable w.cwd (Utf8.encode path) = true

/-- Below some directory of the search path, a name leads to a file that may be run. -/
def Searched (w : World) (name : String) : Prop :=
  ∃ dir ∈ w.searchDirs, w.CanRun (dir ++ "/" ++ name)

/-- `type` tells a file for a name. -/
def TellsFile (w : World) (name : String) : Prop :=
  ∃ path, Builtin.run w "type" [name] = (w, .ok ((Answer.path path).text name))

/-- `type` says of a name that it has not been found. -/
def TellsMissing (w : World) (name : String) : Prop :=
  Builtin.run w "type" [name] = (w, .ok (Answer.missing.text name))

/-- A name alone starts a program. -/
def StartsFile (w : World) (name : String) : Prop :=
  ∃ path, (w.dispatch name []).1.launches = ⟨name, [], [], .started path⟩ :: w.launches

/-- A name alone starts nothing. -/
def StartsNothing (w : World) (name : String) : Prop :=
  ∃ e, (w.dispatch name []).1.launches = ⟨name, [], [], .refused e⟩ :: w.launches

/-! ## What is said -/

theorem searched_iff (w : World) (name : String) :
    w.Searched name ↔ (w.fullPath name).isSome = true := by
  rw [fullPath_eq_find?, List.find?_isSome]
  constructor
  · rintro ⟨dir, hdir, hrun⟩
    exact ⟨_, List.mem_map.2 ⟨dir, hdir, rfl⟩, hrun⟩
  · rintro ⟨path, hpath, hrun⟩
    obtain ⟨dir, hdir, rfl⟩ := List.mem_map.1 hpath
    exact ⟨dir, hdir, hrun⟩

theorem tellsFile_iff (hname : Builtin.ofName? name = none) :
    w.TellsFile name ↔ w.Searched name := by
  rw [searched_iff, TellsFile, run_type, answer, hname]
  cases w.fullPath name with
  | none =>
    simp only [Option.isSome_none, Bool.false_eq_true, if_false, Prod.mk.injEq, true_and,
      Except.ok.injEq, iff_false, not_exists]
    intro path heq
    exact Answer.path_ne_missing path heq.symm
  | some path =>
    simp only [Option.isSome_some, iff_true]
    exact ⟨path, rfl⟩

theorem tellsMissing_iff (hname : Builtin.ofName? name = none) :
    w.TellsMissing name ↔ ¬ w.Searched name := by
  rw [searched_iff, TellsMissing, run_type_eq_iff (a := .missing) trivial, answer, hname]
  cases w.fullPath name with
  | none => simp
  | some path => simp

/-! ## What is done -/

/-- The system looks for a path in one place. -/
theorem request_of_separator (hseparator : '/' ∈ name.toList) (hnul : nul ∉ name.toList) :
    w.request name [] =
      w.store.start w.cwd (w.argumentsFit [name]) maxOpened (Utf8.encode name) := by
  have hnul' : (Utf8.encode name).contains 0 = false :=
    Bool.eq_false_iff.2 fun hmem => hnul
      ((Utf8.mem_encode (a := nul) (by decide) name).1 (List.contains_iff_mem.1 hmem))
  have hseparator' : (Utf8.encode name).contains Path.separator = true :=
    List.contains_iff_mem.2 ((Utf8.mem_encode (a := '/') (by decide) name).2 hseparator)
  have hempty : (Utf8.encode name).isEmpty = false := by
    rw [List.isEmpty_eq_false_iff, Ne, Utf8.encode_eq_nil]
    rintro rfl
    cases hseparator
  have hargs : ∀ a ∈ ([] : List String), nul ∉ a.toList := by simp
  rw [request_of_args hargs, findProgram, hnul', hempty, hseparator']
  rfl

/-- A file that may be run can be started under its path. -/
def StartsWhatCanRun (w : World) (name : String) : Prop :=
  w.CanRun name → ∃ found, (w.asked name).store.start w.cwd (w.argumentsFit [name]) maxOpened
    (Utf8.encode name) = .ok found

theorem request_asked (hseparator : '/' ∈ name.toList) (hnul : nul ∉ name.toList)
    (hstarts : w.StartsWhatCanRun name) :
    (w.CanRun name ∧ ∃ found, (w.asked name).request name [] = .ok found) ∨
      (¬ w.CanRun name ∧ ∃ e, (w.asked name).request name [] = .error e) := by
  have hasked := w.outputOnly_asked name
  rw [request_of_separator hseparator hnul, hasked.cwd, hasked.argumentsFit]
  by_cases hrun : w.CanRun name
  · exact Or.inl ⟨hrun, hstarts hrun⟩
  · refine Or.inr ⟨hrun, ?_⟩
    -- Asking changes files at most in their contents, so what may be run stays the same.
    have hfalse : (w.asked name).store.isRunnable w.cwd (Utf8.encode name) = false := by
      rw [isRunnable_of_sameShape (w.sameShape_asked name)]
      exact Bool.eq_false_iff.2 hrun
    rcases start_of_not_runnable hfalse maxOpened with ⟨e, _, hstart⟩ | hdenied
    · exact ⟨e, hstart⟩
    · exact ⟨_, hdenied⟩

theorem startsFile_iff (hseparator : '/' ∈ name.toList) (hnul : nul ∉ name.toList)
    (hstarts : w.StartsWhatCanRun name) :
    (w.StartsFile name ↔ w.CanRun name) ∧ (w.StartsNothing name ↔ ¬ w.CanRun name) := by
  have hlaunches := launches_program (w := w) (Builtin.ofName?_of_separator hseparator) []
  rw [StartsFile, StartsNothing, hlaunches]
  rcases request_asked hseparator hnul hstarts with ⟨hrun, found, hfound⟩ | ⟨hrun, e, hrefused⟩
  · simp [hfound, Started.toResult, hrun]
  · simp [hrefused, Started.toResult, hrun]

/-- What is said of a path and what is done with it. `type` finds it exactly if it leads to a file
below the search path, and the system starts a program exactly if it leads to one itself. The two
agree under the condition that one is the case exactly if the other is. -/
theorem type_agrees_on_path_iff (hseparator : '/' ∈ name.toList) (hnul : nul ∉ name.toList)
    (hstarts : w.StartsWhatCanRun name) :
    (w.TellsFile name ↔ w.Searched name) ∧ (w.TellsMissing name ↔ ¬ w.Searched name) ∧
      (w.StartsFile name ↔ w.CanRun name) ∧ (w.StartsNothing name ↔ ¬ w.CanRun name) ∧
      (((w.TellsFile name ↔ w.StartsFile name) ∧ (w.TellsMissing name ↔ w.StartsNothing name)) ↔
        (w.Searched name ↔ w.CanRun name)) := by
  have hname := Builtin.ofName?_of_separator hseparator
  obtain ⟨hfile, hnothing⟩ := startsFile_iff hseparator hnul hstarts
  have htells := tellsFile_iff (w := w) hname
  have hmissing := tellsMissing_iff (w := w) hname
  refine ⟨htells, hmissing, hfile, hnothing, ?_⟩
  rw [htells, hmissing, hfile, hnothing]
  constructor
  · intro h
    exact h.1
  · intro h
    exact ⟨h, not_congr h⟩

/-! ## Where they do not agree -/

/-- Where all files are programs, all that may be run can be started. -/
theorem start_of_programs {s : Store} {cwd : NodeId} {path : Bytes}
    (hprograms : ∀ id c m, s.node? id = some (.file c m) → ∃ p, c = .program p)
    (h : s.isRunnable cwd path = true) :
    ∃ found, s.start cwd true maxOpened path = .ok found := by
  obtain ⟨id, c, m, hlookup, hnode⟩ := exists_file_of_isRunnable h
  obtain ⟨p, rfl⟩ := hprograms id c m hnode
  have hrun : m.canRun = true := by
    rw [isRunnable, hlookup] at h
    simpa only [hnode] using h
  refine ⟨⟨path, p, []⟩, ?_⟩
  simp only [maxOpened, start, hlookup, hnode, hrun]
  rfl

/-- A world with a program below a directory of the search path, and another one elsewhere. -/
def withPrograms : World where
  store := ⟨#[.dir [(Utf8.encode "bin", 1), (Utf8.encode "tool", 4)] Store.root true,
    .dir [(Utf8.encode "sub", 2)] Store.root true, .dir [(Utf8.encode "tool", 3)] 1 true,
    .file (.program {}) Mode.executable, .file (.program {}) Mode.executable]⟩
  env := [("PATH", Utf8.encode "/bin")]

theorem startsWhatCanRun_withPrograms (name : String) : withPrograms.StartsWhatCanRun name := by
  intro hrun
  have hprograms : ∀ id c m, withPrograms.store.node? id = some (.file c m) →
      ∃ p, c = .program p := by
    intro id c m hnode
    have hmem := Array.mem_of_getElem? hnode
    simp only [withPrograms, List.mem_toArray, List.mem_cons, reduceCtorEq, Node.file.injEq,
      List.not_mem_nil, or_false, false_or, or_self] at hmem
    exact ⟨_, hmem.1⟩
  obtain ⟨_, _, _, hlookup, _⟩ := exists_file_of_isRunnable hrun
  have hshort : (Utf8.encode name).length ≤ Path.maxLength := by
    apply Nat.le_of_not_lt
    intro hlong
    rcases lookup_too_long hlong with hnul | hrefused
    · cases hnul.symm.trans hlookup
    · cases hrefused.symm.trans hlookup
  have hfits : withPrograms.argumentsFit [name] = true := by
    have hvariable : (Utf8.encode "PATH" ++ 0x3D :: Utf8.encode "/bin").length = 9 := by decide
    have henv : withPrograms.env = [("PATH", Utf8.encode "/bin")] := rfl
    rw [Path.maxLength] at hshort
    simp only [argumentsFit, henv, List.map_cons, List.map_nil, List.cons_append, List.nil_append,
      List.all_cons, List.all_nil, List.foldr_cons, List.foldr_nil, hvariable, spaceOf, maxArgument,
      argumentSpace, Bool.and_eq_true, decide_eq_true_eq, and_true]
    exact ⟨⟨decide_eq_true (by omega), by decide⟩, by omega⟩
  rw [hfits]
  exact start_of_programs hprograms hrun

/-- The program elsewhere is started by its path, and `type` does not find it. -/
theorem type_agrees_on_path_elsewhere :
    '/' ∈ "./tool".toList ∧ nul ∉ "./tool".toList ∧ withPrograms.StartsWhatCanRun "./tool" ∧
      withPrograms.StartsFile "./tool" ∧ withPrograms.TellsMissing "./tool" := by
  have hseparator : '/' ∈ "./tool".toList := by decide
  have hnul : nul ∉ "./tool".toList := by decide
  have hstarts := startsWhatCanRun_withPrograms "./tool"
  have hsearched : ¬ withPrograms.Searched "./tool" := by
    rw [searched_iff]
    decide +kernel
  have hrun : withPrograms.CanRun "./tool" := by
    unfold CanRun
    decide +kernel
  obtain ⟨_, hmissing, hfile, _⟩ := type_agrees_on_path_iff hseparator hnul hstarts
  exact ⟨hseparator, hnul, hstarts, hfile.2 hrun, hmissing.2 hsearched⟩

/-- `type` tells a file for a path at which there is nothing to start. -/
theorem path_told_not_started :
    ¬ ∀ (w : World) (name : String), (w.env.get? "PATH").isSome = true → '/' ∈ name.toList →
      nul ∉ name.toList → (∀ path, w.StartsWhatCanRun path) →
        (w.TellsFile name ↔ w.StartsFile name) ∧ (w.TellsMissing name ↔ w.StartsNothing name) := by
  intro h
  have hseparator : '/' ∈ "sub/tool".toList := by decide
  have hnul : nul ∉ "sub/tool".toList := by decide
  have hagree := (h withPrograms "sub/tool" rfl hseparator hnul startsWhatCanRun_withPrograms).1
  have htells : withPrograms.TellsFile "sub/tool" := by
    rw [tellsFile_iff (Builtin.ofName?_of_separator hseparator), searched_iff]
    decide +kernel
  have hrefused : ¬ withPrograms.CanRun "sub/tool" := by
    unfold CanRun
    decide +kernel
  have hfile := (startsFile_iff hseparator hnul (startsWhatCanRun_withPrograms "sub/tool")).1
  exact hrefused (hfile.1 (hagree.1 htells))

end World

end CommandShell
