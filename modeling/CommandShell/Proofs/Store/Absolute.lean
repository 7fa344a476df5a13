import CommandShell.Proofs.Store.Target

/-!
# Files at absolute paths

An absolute path leads from every directory to the same place. `Store.HoldsText` says which text is
in the file that such a path leads to, or that the path leads to nothing.

* `HoldsText.unique` — there is one answer at most.
* `OpenedToAppend.holdsText` — opening a file to add to it adds no text.
-/

namespace CommandShell

/-- A path starts at the root. -/
def Path.IsAbsolute (path : Bytes) : Prop :=
  path.head? = some Path.separator

instance (path : Bytes) : Decidable (Path.IsAbsolute path) :=
  inferInstanceAs (Decidable (_ = _))

/-- A path is taken apart if it is taken at all. -/
theorem Path.eq_split_of_parse {path : Bytes} {p : Path} (h : Path.parse path = .ok p) :
    p = Path.split path := by
  rw [Path.parse] at h
  split at h
  · cases h
  · split at h
    · cases h
    · split at h
      · cases h
      · cases h
        rfl

namespace Store

variable {s : Store} {path : Bytes} {old old' : Option String}

/-! ## From everywhere -/

theorem locate_of_isAbsolute (h : Path.IsAbsolute path) (s : Store) (create : Bool)
    (cwd cwd' : NodeId) : s.locate create cwd path = s.locate create cwd' path := by
  rw [locate, locate]
  cases hparse : Path.parse path with
  | error e => rfl
  | ok p =>
    have habsolute : p.absolute = true := by
      rw [Path.eq_split_of_parse hparse]
      exact decide_eq_true h
    simp only [habsolute, if_true]

theorem lookup_of_isAbsolute (h : Path.IsAbsolute path) (s : Store) (cwd cwd' : NodeId) :
    s.lookup cwd path = s.lookup cwd' path := by
  rw [lookup, lookup, locate_of_isAbsolute h s false cwd cwd']

theorem Target.of_isAbsolute {cwd cwd' : NodeId} {p : Place} (habsolute : Path.IsAbsolute path)
    (h : Target s cwd path p) : Target s cwd' path p := by
  have hlocate := (locate_of_isAbsolute habsolute s true cwd' cwd).trans h.locate
  cases h with
  | file _ hnode => exact .file hlocate hnode
  | missing _ hdir => exact .missing hlocate hdir

/-! ## What a file holds -/

/-- The bytes of the file that an absolute path leads to. -/
def fileBytes? (s : Store) (path : Bytes) : Option Bytes :=
  match s.lookup root path with
  | .error _ => none
  | .ok id =>
    match s.node? id with
    | some (.file c _) => some c.bytes
    | _ => none

/-- A path leads to a file that holds a text, or it leads to nothing. -/
def HoldsText (s : Store) (path : Bytes) : Option String → Prop
  | none => s.pathExists root path = false
  | some t => s.fileBytes? path = some (Utf8.encode t)

instance : Decidable (s.HoldsText path old) :=
  match old with
  | none => inferInstanceAs (Decidable (s.pathExists root path = false))
  | some t => inferInstanceAs (Decidable (s.fileBytes? path = some (Utf8.encode t)))

theorem fileBytes?_eq_some {b : Bytes} :
    s.fileBytes? path = some b ↔
      ∃ id c m, s.lookup root path = .ok id ∧ s.node? id = some (.file c m) ∧ c.bytes = b := by
  rw [fileBytes?]
  constructor
  · intro h
    split at h
    · cases h
    · next id hlookup =>
      split at h
      · next c m hnode =>
        cases h
        exact ⟨id, c, m, hlookup, hnode, rfl⟩
      · cases h
  · rintro ⟨id, c, m, hlookup, hnode, rfl⟩
    simp only [hlookup, hnode]

theorem HoldsText.lookup (h : s.HoldsText path none) (id : NodeId) :
    s.lookup root path ≠ .ok id := by
  intro hlookup
  rw [HoldsText, pathExists, hlookup] at h
  cases h

theorem HoldsText.unique (h : s.HoldsText path old) (h' : s.HoldsText path old') : old = old' := by
  cases old with
  | none =>
    cases old' with
    | none => rfl
    | some t =>
      obtain ⟨id, _, _, hlookup, _⟩ := fileBytes?_eq_some.1 h'
      exact absurd hlookup (h.lookup id)
  | some t =>
    cases old' with
    | none =>
      obtain ⟨id, _, _, hlookup, _⟩ := fileBytes?_eq_some.1 h
      exact absurd hlookup (h'.lookup id)
    | some t' =>
      have hbytes : some (Utf8.encode t) = some (Utf8.encode t') := h.symm.trans h'
      rw [Utf8.encode_injective (Option.some.inj hbytes)]

/-- A file can be written to. -/
theorem HoldsText.exists_target {t : String} (h : s.HoldsText path (some t)) :
    ∃ p, Target s root path p := by
  obtain ⟨id, c, m, hlookup, hnode, _⟩ := fileBytes?_eq_some.1 h
  rw [Store.lookup] at hlookup
  split at hlookup
  · cases hlookup
  · cases hlookup
  · next j slash hlocate =>
    split at hlookup
    · cases hlookup
    · next hslash =>
      cases hlookup
      have hfile : s.isDir id = false := by rw [isDir, hnode]
      have hplain : slash = false := by simpa [hfile] using hslash
      subst hplain
      exact ⟨_, .file (locate_create_irrelevant true hlocate) hnode⟩

/-- A new file makes a difference only if it is at the path, where nothing was. -/
theorem HoldsText.create {dir : NodeId} {name : Bytes} {m : Mode} (h : s.HoldsText path old)
    (hlacks : Lacks s dir name) :
    (s.create dir name (.ofBytes []) m).HoldsText path old ∨
      old = none ∧ (s.create dir name (.ofBytes []) m).HoldsText path (some "") := by
  cases old with
  | some t =>
    obtain ⟨id, c, m', hlookup, hnode, hbytes⟩ := fileBytes?_eq_some.1 h
    have hnew : id ≠ s.nodes.size := by
      rintro rfl
      rw [node?_size] at hnode
      cases hnode
    have hdir : id ≠ dir := by
      rintro rfl
      obtain ⟨es, up, hentries⟩ := hlacks.dir
      rw [hnode] at hentries
      cases hentries
    refine Or.inl (fileBytes?_eq_some.2 ⟨id, c, m', ?_, ?_, hbytes⟩)
    · exact (lookup_creation hlacks hnew root path).2 hlookup
    · rw [node?_create_of_ne hlacks hdir hnew, hnode]
  | none =>
    cases hlookup : (s.create dir name (.ofBytes []) m).lookup root path with
    | error e =>
      refine Or.inl ?_
      rw [HoldsText, pathExists, hlookup]
      rfl
    | ok id =>
      have hnew : id = s.nodes.size := Decidable.byContradiction fun hne =>
        h.lookup id ((lookup_creation hlacks hne root path).1 hlookup)
      subst hnew
      exact Or.inr ⟨rfl, fileBytes?_eq_some.2
        ⟨_, _, m, hlookup, node?_create_new hlacks, Content.bytes_ofBytes []⟩⟩

/-! ## Opening a file to add to it -/

/-- How a store is after a path has been opened to be added to: there may be a new empty file. -/
def OpenedToAppend (s t : Store) : Prop :=
  t = s ∨ ∃ dir name, Lacks s dir name ∧ t = s.create dir name (.ofBytes []) Mode.plain

theorem openedToAppend_of_openFile {t : Store} {cwd id : NodeId}
    (h : s.openFile cwd path .append = .ok (t, id)) : OpenedToAppend s t := by
  rcases openFile_cases h with ⟨c, m, hnode, rfl⟩ | ⟨d, _, rfl⟩ | ⟨dir, name, hlacks, _, rfl⟩
  · exact Or.inl (setNode_self hnode)
  · exact Or.inl rfl
  · exact Or.inr ⟨dir, name, hlacks, rfl⟩

theorem OpenedToAppend.holdsText {t : Store} (h : OpenedToAppend s t)
    (hold : s.HoldsText path old) :
    t.HoldsText path old ∨ old = none ∧ t.HoldsText path (some "") := by
  rcases h with rfl | ⟨dir, name, hlacks, rfl⟩
  · exact Or.inl hold
  · exact hold.create hlacks

end Store

end CommandShell
