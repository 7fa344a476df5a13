import CommandShell.Proofs.Completion.Offered
import CommandShell.Proofs.Store.Listed
import CommandShell.Proofs.Text.Order
import Mathlib.Data.List.Sort

/-!
# The names of commands as one ordered set

The names that are offered come from a table and from any number of directories, and they form one
list in the order of their bytes, each name once. Which names are in it does not depend on the order
in which the directories are searched, and a longer beginning leaves those that go on with it.

* `increasing_commandNames` — the names are in order, each once.
* `mem_commandNames_of_fullPath` — what the search path has a file for is offered.
* `commandNames_append` — more of a name leaves fewer of them.
* `commandNames_of_sameEntries` — the same entries of the search path give the same names.
* `commandNames_ordered` — all of this for any world and any beginning.
-/

namespace CommandShell

open Store

/-! ## Names in order -/

section

variable {n : String} {l : List String}

theorem increasing_insertName (h : l.Pairwise (· < ·)) : (insertName n l).Pairwise (· < ·) := by
  induction l with
  | nil => exact List.pairwise_singleton _ _
  | cons m rest ih =>
    obtain ⟨hfirst, hrest⟩ := List.pairwise_cons.1 h
    rw [insertName]
    split
    next hlt =>
      refine List.pairwise_cons.2 ⟨fun k hk => ?_, h⟩
      rcases List.mem_cons.1 hk with rfl | hk
      · exact hlt
      · exact String.lt_trans hlt (hfirst k hk)
    · split
      next hlt =>
        refine List.pairwise_cons.2 ⟨fun k hk => ?_, ih hrest⟩
        rcases mem_insertName.1 hk with rfl | hk
        · exact hlt
        · exact hfirst k hk
      · exact h

theorem increasing_sortNames (l : List String) : (sortNames l).Pairwise (· < ·) := by
  induction l with
  | nil => exact .nil
  | cons n l ih => exact increasing_insertName ih

end

/-! ## The search path -/

namespace World

variable {w w' : World} {q name : String}

/-- The entries of the search path as they stand in the environment, empty ones included. -/
def pathEntries (w : World) : List Bytes :=
  match w.env.get? "PATH" with
  | none => []
  | some b => Path.pieces (Utf8.asciiByte ':') b

/-- The search path is a text. -/
def TextPath (w : World) : Prop :=
  ∀ e ∈ w.pathEntries, ∃ s, Utf8.encode s = e

/-- The directories of the search path are its entries that are not empty, unless the search path
is no text: then there are none. -/
theorem mem_searchDirs_iff {dir : String} :
    dir ∈ w.searchDirs ↔ dir ≠ "" ∧ Utf8.encode dir ∈ w.pathEntries ∧ w.TextPath := by
  have hcolon : ':'.toNat < 0x80 := by decide
  unfold TextPath pathEntries
  cases hpath : w.env.get? "PATH" with
  | none =>
    simp [searchDirs, Environment.text?, hpath]
  | some b =>
    by_cases htext : ∃ p, Utf8.encode p = b
    · obtain ⟨p, rfl⟩ := htext
      have hpieces := Utf8.splitOn_encode hcolon p.toList
      rw [String.ofList_toList] at hpieces
      simp only [searchDirs, Environment.text?, hpath, Option.bind_some, Utf8.decode?_encode,
        hpieces]
      constructor
      · intro hdir
        obtain ⟨d, hd, rfl⟩ := List.mem_map.1 hdir
        obtain ⟨hmem, hempty⟩ := List.mem_filter.1 hd
        refine ⟨?_, List.mem_map.2 ⟨d, hmem, rfl⟩, ?_⟩
        · intro hnil
          rw [String.ofList_eq_empty_iff.1 hnil] at hempty
          cases hempty
        · intro e he
          obtain ⟨c, _, rfl⟩ := List.mem_map.1 he
          exact ⟨_, rfl⟩
      · rintro ⟨hne, hmem, _⟩
        obtain ⟨d, hd, hsame⟩ := List.mem_map.1 hmem
        obtain rfl := Utf8.encode_injective hsame
        refine List.mem_map.2 ⟨d, List.mem_filter.2 ⟨hd, ?_⟩, rfl⟩
        cases d with
        | nil => exact absurd rfl hne
        | cons c cs => rfl
    · -- Some entry is no text, or the search path would be one.
      have hdecode : Utf8.decode? b = none := by
        rw [← Option.not_isSome_iff_eq_none, Option.isSome_iff_exists]
        rintro ⟨p, hp⟩
        exact htext ⟨p, Utf8.decode?_eq_some_iff.1 hp⟩
      have hnot : ¬ ∀ e ∈ Path.pieces (Utf8.asciiByte ':') b, ∃ s, Utf8.encode s = e :=
        fun hall => htext (Utf8.exists_encode_of_splitOn hcolon hall)
      simp only [searchDirs, Environment.text?, hpath, Option.bind_some, hdecode]
      simp [hnot]

/-- Two worlds have the same entries in their search paths, in any order and any number, and any
empty entries besides. -/
def SameEntries (w w' : World) : Prop :=
  ∀ e, e ≠ [] → (e ∈ w.pathEntries ↔ e ∈ w'.pathEntries)

theorem SameEntries.symm (h : SameEntries w w') : SameEntries w' w :=
  fun e he => (h e he).symm

theorem SameEntries.textPath (h : SameEntries w w') (htext : w.TextPath) : w'.TextPath := by
  intro e he
  by_cases hempty : e = []
  · exact ⟨"", hempty.symm⟩
  · exact htext e ((h e hempty).2 he)

theorem SameEntries.subset (h : SameEntries w w') {dir : String} (hdir : dir ∈ w.searchDirs) :
    dir ∈ w'.searchDirs := by
  obtain ⟨hne, hmem, htext⟩ := mem_searchDirs_iff.1 hdir
  have hbytes : Utf8.encode dir ≠ [] := fun hnil => hne (Utf8.encode_eq_nil.1 hnil)
  exact mem_searchDirs_iff.2 ⟨hne, (h _ hbytes).1 hmem, h.textPath htext⟩

theorem SameEntries.listed (h : SameEntries w w') (hstore : w'.store = w.store)
    (hcwd : w'.cwd = w.cwd) (hlisted : w.Listed name) : w'.Listed name := by
  obtain ⟨dir, hdir, names, hnames, hmem⟩ := hlisted
  refine ⟨dir, h.subset hdir, names, ?_, hmem⟩
  rw [hstore, hcwd]
  exact hnames

/-! ## The names that are offered -/

theorem increasing_commandNames (w : World) (q : String) :
    (w.commandNames q).Pairwise (· < ·) :=
  increasing_sortNames _

/-- Two lists of offered names are the same if they have the same names. -/
theorem eq_commandNames {l : List String} (hl : l.Pairwise (· < ·))
    (h : ∀ name, name ∈ w.commandNames q ↔ name ∈ l) : w.commandNames q = l := by
  exact (w.increasing_commandNames q).eq_of_mem_iff hl h

theorem mem_commandNames_of_builtin (w : World) (b : Builtin)
    (hstart : q.toList <+: b.name.toList) : b.name ∈ w.commandNames q := by
  have hname : b.name ∈ Builtin.all.map Builtin.name := by
    cases b <;> decide
  exact mem_commandNames_iff.2 ⟨hstart, Or.inl (Builtin.isSome_ofName?_iff.2 hname)⟩

/-- A name without separators is offered if the search path has a file for it. The name `..` stands
for no file unless a directory has a file for its parent. -/
theorem mem_commandNames_of_fullPath {path : String} (hstart : q.toList <+: name.toList)
    (hname : '/' ∉ name.toList) (hup : name = ".." → w.store.ParentsAreDirs)
    (h : w.fullPath name = some path) : name ∈ w.commandNames q := by
  rw [fullPath_eq_find?] at h
  obtain ⟨dir, hdir, rfl⟩ := List.mem_map.1 (List.mem_of_find?_eq_some h)
  have hrun := List.find?_some h
  have hseparator : Utf8.encode "/" = [Path.separator] := by decide
  rw [Utf8.encode_append, Utf8.encode_append, hseparator, List.append_assoc,
    List.singleton_append] at hrun
  have hne : Utf8.encode dir ≠ [] := by
    intro hnil
    exact (mem_searchDirs_iff.1 hdir).1 (Utf8.encode_eq_nil.1 hnil)
  have hnot : Path.separator ∉ Utf8.encode name :=
    fun hmem => hname ((Utf8.mem_encode (show '/'.toNat < 0x80 by decide) name).1 hmem)
  have hup' : Utf8.encode name = Path.up → w.store.ParentsAreDirs := by
    intro heq
    have hdots : Utf8.encode ".." = Path.up := by decide
    exact hup (Utf8.encode_injective (heq.trans hdots.symm))
  obtain ⟨names, hnames, hmem⟩ := listed_of_isRunnable hne hnot hup' hrun
  exact mem_commandNames_iff.2 ⟨hstart, Or.inr ⟨dir, hdir, names, hnames, hmem⟩⟩

/-- More of a name leaves the names that go on with it. -/
theorem commandNames_append (w : World) (q more : String) :
    w.commandNames (q ++ more) =
      (w.commandNames q).filter fun name => (q ++ more).toList.isPrefixOf name.toList := by
  refine eq_commandNames ((w.increasing_commandNames q).filter _) fun name => ?_
  rw [List.mem_filter, mem_commandNames_iff, mem_commandNames_iff, List.isPrefixOf_iff_prefix]
  constructor
  · rintro ⟨hstart, hoffered⟩
    refine ⟨⟨?_, hoffered⟩, hstart⟩
    rw [String.toList_append] at hstart
    exact (List.prefix_append _ _).trans hstart
  · rintro ⟨⟨_, hoffered⟩, hstart⟩
    exact ⟨hstart, hoffered⟩

/-- The names do not depend on where in the search path its entries stand, and how often. -/
theorem commandNames_of_sameEntries (h : SameEntries w w') (hstore : w'.store = w.store)
    (hcwd : w'.cwd = w.cwd) (q : String) : w.commandNames q = w'.commandNames q := by
  refine eq_commandNames (w'.increasing_commandNames q) fun name => ?_
  rw [mem_commandNames_iff, mem_commandNames_iff]
  have hlisted : w.Listed name ↔ w'.Listed name :=
    ⟨h.listed hstore hcwd, h.symm.listed hstore.symm hcwd.symm⟩
  rw [hlisted]

/-- The names that are offered are in the order of their bytes, each once. They begin with what has
been typed, and each is builtin or listed by the search path. All builtin commands that begin so are
among them, and so is every name without separators for which the search path has a file. With more
of a name typed, they are those that go on with it. They stay the same when entries of the search
path change their places, are repeated, or have empty ones between them. -/
theorem commandNames_ordered (w : World) (q : String) :
    ((w.commandNames q).map Utf8.encode).Pairwise (· < ·) ∧
    (∀ name ∈ w.commandNames q, q.toList <+: name.toList ∧
      ((Builtin.ofName? name).isSome = true ∨ w.Listed name)) ∧
    (∀ b : Builtin, q.toList <+: b.name.toList → b.name ∈ w.commandNames q) ∧
    (∀ name path, q.toList <+: name.toList → '/' ∉ name.toList →
      (name = ".." → w.store.ParentsAreDirs) → w.fullPath name = some path →
      name ∈ w.commandNames q) ∧
    (∀ more, w.commandNames (q ++ more) =
      (w.commandNames q).filter fun name => (q ++ more).toList.isPrefixOf name.toList) ∧
    ∀ w' : World, w'.store = w.store → w'.cwd = w.cwd → SameEntries w w' →
      w'.commandNames q = w.commandNames q := by
  refine ⟨?_, ?_, ?_, ?_, w.commandNames_append q, ?_⟩
  · exact List.pairwise_map.2 ((w.increasing_commandNames q).imp Utf8.encode_lt_encode)
  · intro name hname
    exact mem_commandNames_iff.1 hname
  · intro b hstart
    exact w.mem_commandNames_of_builtin b hstart
  · intro name path hstart hname hup hpath
    exact mem_commandNames_of_fullPath hstart hname hup hpath
  · intro w' hstore hcwd hentries
    exact (commandNames_of_sameEntries hentries hstore hcwd q).symm

/-- A world with two directories on the search path, which have a file and a link in common. -/
def withTools : World where
  store := ⟨#[.dir [(Utf8.encode "a", 1), (Utf8.encode "b", 2)] Store.root true,
    .dir [(Utf8.encode "top", 3), (Utf8.encode "env", 3)] Store.root true,
    .dir [(Utf8.encode "top", 3), (Utf8.encode "ed", 4)] Store.root true,
    .file (.ofBytes (Utf8.encode "#!")) Mode.executable, .link (Utf8.encode "/a/top")]⟩
  env := [("PATH", Utf8.encode "/a:/b")]

/-- The same world with its search path written differently. -/
def withToolsAgain : World :=
  { withTools with env := [("PATH", Utf8.encode ":/b:/a::/b:")] }

theorem commandNames_ordered_withTools :
    withTools.store.ParentsAreDirs ∧ withTools.fullPath "ed" = some "/b/ed" ∧
      "ed" ∈ withTools.commandNames "e" ∧ SameEntries withTools withToolsAgain ∧
      withToolsAgain.commandNames "e" = withTools.commandNames "e" ∧
      withTools.commandNames "e" = ["echo", "ed", "env", "exit"] := by
  have hparents : withTools.store.ParentsAreDirs := by decide +kernel
  have hpath : withTools.fullPath "ed" = some "/b/ed" := by decide +kernel
  have hentries : SameEntries withTools withToolsAgain := by
    have h : withTools.pathEntries = [Utf8.encode "/a", Utf8.encode "/b"] := by decide +kernel
    have h' : withToolsAgain.pathEntries =
        [[], Utf8.encode "/b", Utf8.encode "/a", [], Utf8.encode "/b", []] := by decide +kernel
    intro e he
    rw [h, h']
    simp only [List.mem_cons, List.not_mem_nil, or_false, he, false_or]
    tauto
  obtain ⟨_, _, _, hlisted, _, hsame⟩ := withTools.commandNames_ordered "e"
  exact ⟨hparents, hpath,
    hlisted "ed" _ (by decide) (by decide) (fun _ => hparents) hpath, hentries,
    hsame withToolsAgain rfl rfl hentries, by decide +kernel⟩

end World

end CommandShell
