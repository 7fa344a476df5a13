import CommandShell.Proofs.Store.Creation

/-!
# Writing to a target

The target of a redirection is a path that leads to a file or to a missing name. Opening it gives a
file, new or old, and writing adds to this file and to nothing else. `Stored` says this of a store
before and after, for the file and for all that is beside it.

* `openFile_target` — a target can be opened, and holds what its mode leaves of it.
* `openFile_cases` — what opening any path can do.
* `Stored.append` — bytes are added at the end of the opened file.
* `Stored.exists_target` — a target stays a target when another one has been written to.
* `targetsStay_openFile` — and when any path has been opened.
-/

namespace CommandShell

namespace Store

/-! ## Nodes that stay -/

/-- How a node is kept: a file has had some bytes added, a directory may have other entries, and
anything else is as it was. -/
inductive Kept (added : Bytes) : Option Node → Option Node → Prop where
  | none : Kept added none none
  | file (c : Content) (m : Mode) :
      Kept added (some (.file c m)) (some (.file (c.append added) m))
  | dir (es es' : List (Bytes × NodeId)) (up : NodeId) (linked : Bool) :
      Kept added (some (.dir es up linked)) (some (.dir es' up linked))
  | link (target : Bytes) : Kept added (some (.link target)) (some (.link target))
  | device (d : Device) : Kept added (some (.device d)) (some (.device d))

/-- A node is kept from one store to another. -/
def Keeps (s t : Store) (id : NodeId) (added : Bytes) : Prop :=
  Kept added (s.node? id) (t.node? id)

theorem Kept.refl (n : Option Node) : Kept [] n n := by
  rcases n with _ | ⟨c, m⟩ | ⟨es, up, linked⟩ | target | d
  · exact .none
  · have hkept : Kept [] (some (.file c m)) (some (.file (c.append []) m)) := .file c m
    rwa [Content.append_nil] at hkept
  · exact .dir es es up linked
  · exact .link target
  · exact .device d

theorem Kept.trans {x y z : Option Node} {a b : Bytes} (h : Kept a x y) (h' : Kept b y z) :
    Kept (a ++ b) x z := by
  cases h with
  | none =>
    cases h'
    exact .none
  | file c m =>
    cases h'
    rw [Content.append_append]
    exact .file c m
  | dir es es' up linked =>
    cases h' with
    | dir _ es'' => exact .dir es es'' up linked
  | link target =>
    cases h'
    exact .link target
  | device d =>
    cases h'
    exact .device d

variable {s t u : Store} {id : NodeId} {a b : Bytes}

theorem Keeps.of_eq (h : t.node? id = s.node? id) : Keeps s t id [] := by
  rw [Keeps, h]
  exact Kept.refl _

theorem Keeps.trans (h : Keeps s t id a) (h' : Keeps t u id b) : Keeps s u id (a ++ b) :=
  Kept.trans h h'

theorem Keeps.file {c : Content} {m : Mode} (h : Keeps s t id a)
    (hs : s.node? id = some (.file c m)) : t.node? id = some (.file (c.append a) m) := by
  rw [Keeps, hs] at h
  generalize t.node? id = n at h
  cases h
  rfl

theorem Keeps.dir {es : List (Bytes × NodeId)} {up : NodeId} {linked : Bool} (h : Keeps s t id a)
    (hs : s.node? id = some (.dir es up linked)) : ∃ es, t.node? id = some (.dir es up linked) := by
  rw [Keeps, hs] at h
  generalize t.node? id = n at h
  cases h with
  | dir _ es' => exact ⟨es', rfl⟩

/-! ## Targets -/

/-- A path leads to a place that output can be written to: a file, or a missing name in a directory
that takes new names. -/
inductive Target (s : Store) (cwd : NodeId) (path : Bytes) : Place → Prop where
  | file {id : NodeId} {c : Content} {m : Mode}
      (hlocate : s.locate true cwd path = .ok (.found id, false))
      (hnode : s.node? id = some (.file c m)) : Target s cwd path (.found id)
  | missing {dir : NodeId} {name : Bytes} {es : List (Bytes × NodeId)} {up : NodeId}
      (hlocate : s.locate true cwd path = .ok (.vacant dir name, false))
      (hdir : s.node? dir = some (.dir es up true)) : Target s cwd path (.vacant dir name)

theorem Target.locate {cwd : NodeId} {path : Bytes} {p : Place} (h : Target s cwd path p) :
    s.locate true cwd path = .ok (p, false) := by
  cases h with
  | file hlocate => exact hlocate
  | missing hlocate => exact hlocate

theorem Target.unique {cwd : NodeId} {path : Bytes} {p q : Place} (h : Target s cwd path p)
    (h' : Target s cwd path q) : p = q := by
  have hlocate := h.locate.symm.trans h'.locate
  cases hlocate
  rfl

/-- What a file holds makes no difference to a target. -/
theorem Target.of_sameShape {cwd : NodeId} {path : Bytes} {p : Place} (hshape : SameShape s t)
    (h : Target s cwd path p) : Target t cwd path p := by
  have hlocate : t.locate true cwd path = .ok (p, false) := by
    rw [locate_of_sameShape hshape, h.locate]
  cases h with
  | @file id c m _ hnode =>
    rcases hshape id with heq | ⟨_, c', m', _, ht⟩
    · exact .file hlocate (heq.trans hnode)
    · exact .file hlocate ht
  | @missing dir name es up _ hdir =>
    rcases hshape dir with heq | ⟨c, _, m, hs, _⟩
    · exact .missing hlocate (heq.trans hdir)
    · rw [hdir] at hs
      cases hs

/-! ### A walk to a missing name -/

theorem child_of_walk_vacant {createDir : Bool} {start dir : NodeId} {name : Bytes}
    {parts : List Bytes} (h : s.walk createDir start parts = .ok (.place (.vacant dir name))) :
    s.child dir name = .ok none := by
  induction parts generalizing start with
  | nil => simp [walk] at h
  | cons part rest ih =>
    cases hlast : createDir && rest.isEmpty with
    | true =>
      rw [walk, if_pos hlast] at h
      cases h
    | false =>
      cases hnext : s.child start part with
      | error e =>
        rw [walk_cons_error hlast hnext] at h
        cases h
      | ok next =>
        cases next with
        | none =>
          rw [walk_cons_none hlast hnext] at h
          split at h
          · cases h
            exact hnext
          · cases h
        | some id =>
          by_cases hlink : ∃ target, s.node? id = some (.link target)
          · obtain ⟨target, hnode⟩ := hlink
            rw [walk_cons_link hlast hnext hnode] at h
            cases h
          · rw [walk_cons_node hlast hnext fun target hnode => hlink ⟨target, hnode⟩] at h
            exact ih h

theorem child_of_follow_vacant {create slash slash' : Bool} {budget : Nat} {start dir : NodeId}
    {name : Bytes} {parts : List Bytes}
    (h : s.follow create budget start parts slash = .ok (.vacant dir name, slash')) :
    s.child dir name = .ok none := by
  induction budget using Nat.strongRecOn generalizing start parts slash with
  | ind budget ih =>
    rcases follow_ok h with ⟨hwalk, _⟩ | ⟨budget', _, _, _, hbudget, _, hrest⟩
    · exact child_of_walk_vacant hwalk
    · exact ih budget' (by omega) hrest

theorem child_of_locate_vacant {create slash : Bool} {cwd dir : NodeId} {name path : Bytes}
    (h : s.locate create cwd path = .ok (.vacant dir name, slash)) :
    s.child dir name = .ok none := by
  rw [Store.locate] at h
  split at h
  · cases h
  · next p hparse =>
    cases hfollow : s.follow create maxLinks (if p.absolute then root else cwd) p.parts p.slash with
    | error e =>
      rw [hfollow] at h
      cases h
    | ok q =>
      rw [hfollow] at h
      cases h
      exact child_of_follow_vacant hfollow

/-! ### A target is found -/

/-- A directory that is demanded at the end of a path stays demanded. -/
theorem follow_slash {create slash : Bool} {budget : Nat} {start : NodeId} {parts : List Bytes}
    {p : Place} (h : s.follow create budget start parts slash = .ok (p, false)) :
    slash = false := by
  induction budget using Nat.strongRecOn generalizing start parts slash with
  | ind budget ih =>
    rcases follow_ok h with ⟨_, hslash⟩ | ⟨budget', _, _, _, hbudget, _, hrest⟩
    · exact hslash.symm
    · have hslash := ih budget' (by omega) hrest
      split at hslash
      · exact (Bool.or_eq_false_iff.1 hslash).1
      · exact hslash

/-- Where no directory is demanded, it makes no difference whether the path is to be created. -/
theorem follow_create_irrelevant {create : Bool} (create' : Bool) {budget : Nat} {start : NodeId}
    {parts : List Bytes} {slash : Bool} {p : Place}
    (h : s.follow create budget start parts slash = .ok (p, false)) :
    s.follow create' budget start parts slash = .ok (p, false) := by
  have hslash : slash = false := follow_slash h
  subst hslash
  induction budget using Nat.strongRecOn generalizing start parts with
  | ind budget ih =>
    have hwalks : s.walk (create' && false) start parts = s.walk (create && false) start parts := by
      rw [Bool.and_false, Bool.and_false]
    rcases follow_ok h with ⟨hwalk, _⟩ | ⟨budget', dir, target, rest, hbudget, hwalk, hrest⟩
    · exact follow_place (hwalks.trans hwalk)
    · subst hbudget
      rw [follow_link_succ (hwalks.trans hwalk)]
      -- The link demands no directory either, or the path would demand one at its end.
      have hslash := follow_slash hrest
      rw [hslash] at hrest ⊢
      exact ih budget' (Nat.lt_succ_self budget') hrest

theorem locate_create_irrelevant {create : Bool} (create' : Bool) {cwd : NodeId} {path : Bytes}
    {p : Place} (h : s.locate create cwd path = .ok (p, false)) :
    s.locate create' cwd path = .ok (p, false) := by
  rw [Store.locate] at h ⊢
  split at h
  · cases h
  · next q hparse =>
    cases hfollow : s.follow create maxLinks (if q.absolute then root else cwd) q.parts q.slash with
    | error e =>
      rw [hfollow] at h
      cases h
    | ok r =>
      rw [hfollow] at h
      cases h
      rw [follow_create_irrelevant create' hfollow]
      rfl

theorem lookup_of_locate_found {cwd : NodeId} {path : Bytes}
    (h : s.locate true cwd path = .ok (.found id, false)) : s.lookup cwd path = .ok id := by
  rw [lookup, locate_create_irrelevant false h]
  rfl

theorem lookup_of_locate_vacant {cwd dir : NodeId} {path name : Bytes}
    (h : s.locate true cwd path = .ok (.vacant dir name, false)) :
    s.lookup cwd path = .error (.errno .noEntry) := by
  rw [lookup, locate_create_irrelevant false h]

theorem read_of_locate_found {cwd : NodeId} {path : Bytes} {c : Content} {m : Mode}
    (h : s.locate true cwd path = .ok (.found id, false)) (hnode : s.node? id = some (.file c m)) :
    s.read cwd path = .ok c.bytes := by
  rw [Store.read, lookup_of_locate_found h]
  simp only [hnode]

theorem read_of_locate_vacant {cwd dir : NodeId} {path name : Bytes}
    (h : s.locate true cwd path = .ok (.vacant dir name, false)) :
    s.read cwd path = .error (.errno .noEntry) := by
  rw [Store.read, lookup_of_locate_vacant h]

/-- A path leads to a file. -/
def FileAt (s : Store) (cwd : NodeId) (path : Bytes) (id : NodeId) : Prop :=
  s.lookup cwd path = .ok id ∧ ∃ c m, s.node? id = some (.file c m)

theorem FileAt.unique {cwd : NodeId} {path : Bytes} {id' : NodeId} (h : s.FileAt cwd path id)
    (h' : s.FileAt cwd path id') : id = id' := by
  have hlookup := h.1.symm.trans h'.1
  cases hlookup
  rfl

theorem Target.fileAt {cwd : NodeId} {path : Bytes} (h : Target s cwd path (.found id)) :
    s.FileAt cwd path id := by
  cases h with
  | @file _ c m hlocate hnode => exact ⟨lookup_of_locate_found hlocate, c, m, hnode⟩

/-! ## Opening and writing -/

/-- The bytes at a place; a missing file has none. -/
def bytesAt (s : Store) : Place → Bytes
  | .found id =>
    match s.node? id with
    | some (.file c _) => c.bytes
    | _ => []
  | .vacant .. => []

/-- What a target holds once it is opened. -/
def keptAt (s : Store) (p : Place) : WriteMode → Bytes
  | .truncate => []
  | .append => s.bytesAt p

/-- The store `t` is `s` with the bytes `b` in the file `id`, which is at the place `p`; each other
file has had some bytes `added`. -/
structure Stored (s t : Store) (p : Place) (id : NodeId) (b : Bytes) (added : NodeId → Bytes) :
    Prop where
  /-- The file was at the place, or is new. -/
  origin : (p = .found id ∧ ∃ c m, s.node? id = some (.file c m)) ∨
    (∃ dir name, p = .vacant dir name) ∧ s.node? id = none
  /-- The paths that lead to the place lead to the file. -/
  leads : ∀ create start path slash, s.locate create start path = .ok (p, slash) →
    t.locate create start path = .ok (.found id, slash)
  holds : ∃ c m, t.node? id = some (.file c m) ∧ c.bytes = b
  /-- All other paths lead where they led. -/
  others : ∀ create start path q slash, q ≠ p → s.locate create start path = .ok (q, slash) →
    t.locate create start path = .ok (q, slash)
  keeps : ∀ j, j ≠ id → Keeps s t j (added j)
  lookup : ∀ j, j ≠ id → ∀ start path, t.lookup start path = .ok j ↔ s.lookup start path = .ok j

/-- An existing file is at its place. -/
theorem stored_self {c : Content} {m : Mode} (h : s.node? id = some (.file c m)) :
    Stored s s (.found id) id c.bytes fun _ => [] where
  origin := Or.inl ⟨rfl, c, m, h⟩
  leads := fun _ _ _ _ hlocate => hlocate
  holds := ⟨c, m, h, rfl⟩
  others := fun _ _ _ _ _ _ hlocate => hlocate
  keeps := fun _ _ => .of_eq rfl
  lookup := fun _ _ _ _ => Iff.rfl

/-- The file is given another content. -/
theorem Stored.setNode {p : Place} {added : NodeId → Bytes} {c : Content} {m : Mode}
    (h : Stored s t p id b added) (hnode : t.node? id = some (.file c m)) (c' : Content) :
    Stored s (t.setNode id (.file c' m)) p id c'.bytes added := by
  have hshape := sameShape_setNode_file hnode c'
  constructor
  case origin => exact h.origin
  case leads =>
    intro create start path slash hlocate
    rw [locate_of_sameShape hshape]
    exact h.leads create start path slash hlocate
  case holds => exact ⟨c', m, node?_setNode_self hnode _, rfl⟩
  case others =>
    intro create start path q slash hne hlocate
    rw [locate_of_sameShape hshape]
    exact h.others create start path q slash hne hlocate
  case keeps =>
    intro j hj
    rw [Keeps, node?_setNode_of_ne hj]
    exact h.keeps j hj
  case lookup =>
    intro j hj start path
    rw [lookup_of_sameShape hshape]
    exact h.lookup j hj start path

theorem stored_create {dir : NodeId} {name : Bytes} (h : Lacks s dir name) (c : Content)
    (m : Mode) :
    Stored s (s.create dir name c m) (.vacant dir name) s.nodes.size c.bytes fun _ => [] where
  origin := Or.inr ⟨⟨dir, name, rfl⟩, node?_size s⟩
  leads := fun create start path slash hlocate => by
    rw [locate_create_of_ok h hlocate, Place.fill_missing]
  holds := ⟨c, m, node?_create_new h, rfl⟩
  others := fun create start path q slash hne hlocate => by
    rw [locate_create_of_ok h hlocate, Place.fill_of_ne hne]
  keeps := fun j hj => by
    obtain ⟨es, up, hnode⟩ := h.dir
    by_cases hdir : j = dir
    · subst hdir
      rw [Keeps, hnode, node?_create_dir hnode]
      exact .dir es _ up true
    · exact .of_eq (node?_create_of_ne h hdir hj)
  lookup := fun j hj start path => lookup_creation h hj start path

/-- A target can be opened. -/
theorem openFile_target {cwd : NodeId} {path : Bytes} {p : Place} (h : Target s cwd path p)
    (mode : WriteMode) :
    ∃ t id, s.openFile cwd path mode = .ok (t, id) ∧
      Stored s t p id (s.keptAt p mode) fun _ => [] := by
  cases h with
  | @file id c m hlocate hnode =>
    refine ⟨s.setNode id (.file (c.opened mode) m), id, ?_, ?_⟩
    · rw [openFile, hlocate]
      simp only [hnode]
    · have hbytes : (c.opened mode).bytes = s.keptAt (.found id) mode := by
        cases mode <;> simp [Content.opened, keptAt, bytesAt, hnode, Content.bytes_ofBytes]
      rw [← hbytes]
      exact (stored_self hnode).setNode hnode _
  | @missing dir name es up hlocate hdir =>
    have hlacks : Lacks s dir name := ⟨child_of_locate_vacant hlocate, es, up, hdir⟩
    refine ⟨s.create dir name (.ofBytes []) Mode.plain, s.nodes.size, ?_, ?_⟩
    · rw [openFile, hlocate]
      simp only [hdir, Store.create, addNode]
    · have hbytes : (Content.ofBytes []).bytes = s.keptAt (.vacant dir name) mode := by
        cases mode <;> rfl
      rw [← hbytes]
      exact stored_create hlacks _ _

/-- What opening a path does: a file keeps what the mode leaves of it, a device stays as it is, and
what is missing becomes an empty file. -/
theorem openFile_cases {cwd : NodeId} {path : Bytes} {mode : WriteMode}
    (h : s.openFile cwd path mode = .ok (t, id)) :
    (∃ c m, s.node? id = some (.file c m) ∧ t = s.setNode id (.file (c.opened mode) m)) ∨
    (∃ d, s.node? id = some (.device d) ∧ t = s) ∨
    ∃ dir name, Lacks s dir name ∧ id = s.nodes.size ∧
      t = s.create dir name (.ofBytes []) Mode.plain := by
  rw [openFile] at h
  split at h
  · cases h
  · next j slash hlocate =>
    split at h
    · next c m hnode =>
      cases h
      exact Or.inl ⟨c, m, hnode, rfl⟩
    · next d hnode =>
      cases h
      exact Or.inr (Or.inl ⟨d, hnode, rfl⟩)
    · cases h
    · cases h
  · next dir name slash hlocate =>
    split at h
    · next es up hnode =>
      refine Or.inr (Or.inr ⟨dir, name, ⟨child_of_locate_vacant hlocate, es, up, hnode⟩, ?_⟩)
      rw [Store.create]
      simp only [addNode, hnode] at h ⊢
      cases h
      exact ⟨rfl, rfl⟩
    · cases h

/-- A file that was at the place is the opened one. -/
theorem Stored.found {j : NodeId} {added : NodeId → Bytes}
    (h : Stored s t (.found j) id b added) : j = id := by
  rcases h.origin with ⟨hplace, _⟩ | ⟨⟨dir, name, hplace⟩, _⟩
  · cases hplace
    rfl
  · cases hplace

/-- Bytes are added to the opened file. -/
theorem Stored.append {p : Place} {added : NodeId → Bytes} (h : Stored s t p id b added)
    (more : Bytes) : Stored s (t.append id more) p id (b ++ more) added := by
  obtain ⟨c, m, hnode, hbytes⟩ := h.holds
  rw [append_file hnode, ← hbytes, ← Content.bytes_append]
  exact h.setNode hnode _

/-- What was added to the store before counts as added. -/
theorem Stored.after {r : Store} {p : Place} {before added : NodeId → Bytes}
    (hshape : SameShape r s) (hkeeps : ∀ j, Keeps r s j (before j)) (h : Stored s t p id b added) :
    Stored r t p id b fun j => before j ++ added j where
  origin := by
    rcases h.origin with ⟨hp, c, m, hnode⟩ | ⟨hp, hnode⟩
    · rcases hshape id with heq | ⟨c', _, m', hr, _⟩
      · exact Or.inl ⟨hp, c, m, heq ▸ hnode⟩
      · exact Or.inl ⟨hp, c', m', hr⟩
    · rcases hshape id with heq | ⟨_, c', m', _, hs⟩
      · exact Or.inr ⟨hp, heq ▸ hnode⟩
      · rw [hnode] at hs
        cases hs
  leads := fun create start path slash hlocate =>
    h.leads create start path slash (by rwa [locate_of_sameShape hshape])
  holds := h.holds
  others := fun create start path q slash hne hlocate =>
    h.others create start path q slash hne (by rwa [locate_of_sameShape hshape])
  keeps := fun j hj => (hkeeps j).trans (h.keeps j hj)
  lookup := fun j hj start path => by
    rw [h.lookup j hj start path, lookup_of_sameShape hshape]

/-! ## One target after another -/

variable {cwd : NodeId} {path : Bytes} {p q : Place} {added : NodeId → Bytes}

/-- The file that has been written to is a target now. -/
theorem Stored.target_self (h : Stored s t p id b added) (htarget : Target s cwd path p) :
    Target t cwd path (.found id) := by
  obtain ⟨c, m, hnode, _⟩ := h.holds
  exact .file (h.leads true cwd path false htarget.locate) hnode

theorem Stored.target_of_ne (h : Stored s t p id b added) (hne : q ≠ p)
    (htarget : Target s cwd path q) : Target t cwd path q := by
  have hlocate := h.others true cwd path q false hne htarget.locate
  cases htarget with
  | @file j c m _ hnode =>
    -- The file at another place is not the one that was written to.
    have hj : j ≠ id := by
      rintro rfl
      rcases h.origin with ⟨hp, _⟩ | ⟨_, hnone⟩
      · exact hne hp.symm
      · rw [hnode] at hnone
        cases hnone
    exact .file hlocate ((h.keeps j hj).file hnode)
  | @missing dir name es up _ hdir =>
    -- Neither is a directory.
    have hj : dir ≠ id := by
      rintro rfl
      rcases h.origin with ⟨_, c, m, hnode⟩ | ⟨_, hnone⟩
      · rw [hdir] at hnode
        cases hnode
      · rw [hdir] at hnone
        cases hnone
    obtain ⟨es', hdir'⟩ := (h.keeps dir hj).dir hdir
    exact .missing hlocate hdir'

/-- No other target leads to the file that has been written to. -/
theorem Stored.ne_found (h : Stored s t p id b added) (hne : q ≠ p)
    (htarget : Target s cwd path q) : q ≠ .found id := by
  rintro rfl
  cases htarget with
  | file hlocate hnode =>
    rcases h.origin with ⟨hp, _⟩ | ⟨_, hnone⟩
    · exact hne hp.symm
    · rw [hnode] at hnone
      cases hnone

/-- Targets at different places stay at different places. -/
theorem Stored.targets_apart {path' : Bytes} {q' r : Place} (h : Stored s t p id b added)
    (hq : Target s cwd path q) (hq' : Target s cwd path' q') (hne : q ≠ q')
    (hr : Target t cwd path r) : ¬ Target t cwd path' r := by
  intro hr'
  by_cases hqp : q = p
  · subst hqp
    have hq'p : q' ≠ q := Ne.symm hne
    have hfound := hr.unique (h.target_self hq)
    have hstays := hr'.unique (h.target_of_ne hq'p hq')
    exact h.ne_found hq'p hq' (hstays.symm.trans hfound)
  · have hstays := hr.unique (h.target_of_ne hqp hq)
    by_cases hq'p : q' = p
    · subst hq'p
      have hfound := hr'.unique (h.target_self hq')
      exact h.ne_found hqp hq (hstays.symm.trans hfound)
    · have hstays' := hr'.unique (h.target_of_ne hq'p hq')
      exact hne (hstays.symm.trans hstays')

theorem Stored.exists_target (h : Stored s t p id b added) (htarget : Target s cwd path q) :
    ∃ q', Target t cwd path q' := by
  by_cases hne : q = p
  · subst hne
    exact ⟨_, h.target_self htarget⟩
  · exact ⟨q, h.target_of_ne hne htarget⟩

theorem Stored.fileAt_self (h : Stored s t p id b added) (htarget : Target s cwd path p) :
    t.FileAt cwd path id :=
  (h.target_self htarget).fileAt

theorem Stored.read_self (h : Stored s t p id b added) (htarget : Target s cwd path p) :
    t.read cwd path = .ok b := by
  obtain ⟨c, m, hnode, hbytes⟩ := h.holds
  rw [read_of_locate_found (h.target_self htarget).locate hnode, hbytes]

theorem Stored.bytesAt (h : Stored s t p id b added) : t.bytesAt (.found id) = b := by
  obtain ⟨c, m, hnode, hbytes⟩ := h.holds
  rw [Store.bytesAt, hnode]
  exact hbytes

theorem Stored.fileAt_of_ne {j : NodeId} (h : Stored s t p id b added) (hj : j ≠ id)
    (hfile : s.FileAt cwd path j) : t.FileAt cwd path j := by
  obtain ⟨hlookup, c, m, hnode⟩ := hfile
  exact ⟨(h.lookup j hj cwd path).2 hlookup, _, m, (h.keeps j hj).file hnode⟩

/-! ## Targets stay -/

/-- Whatever could be written to still can be. -/
def TargetsStay (s t : Store) : Prop :=
  ∀ cwd path p, Target s cwd path p → ∃ q, Target t cwd path q

theorem TargetsStay.refl (s : Store) : TargetsStay s s :=
  fun _ _ p h => ⟨p, h⟩

theorem TargetsStay.trans (h : TargetsStay s t) (h' : TargetsStay t u) : TargetsStay s u := by
  intro cwd path p hp
  obtain ⟨q, hq⟩ := h cwd path p hp
  exact h' cwd path q hq

theorem targetsStay_of_sameShape (h : SameShape s t) : TargetsStay s t :=
  fun _ _ p hp => ⟨p, hp.of_sameShape h⟩

theorem targetsStay_create {dir : NodeId} {name : Bytes} (h : Lacks s dir name) (c : Content)
    (m : Mode) : TargetsStay s (s.create dir name c m) :=
  fun _ _ _ hp => (stored_create h c m).exists_target hp

theorem targetsStay_openFile {cwd : NodeId} {path : Bytes} {mode : WriteMode}
    (h : s.openFile cwd path mode = .ok (t, id)) : TargetsStay s t := by
  rcases openFile_cases h with ⟨c, m, hnode, rfl⟩ | ⟨d, _, rfl⟩ | ⟨dir, name, hlacks, _, rfl⟩
  · exact targetsStay_of_sameShape (sameShape_setNode_file hnode _)
  · exact .refl _
  · exact targetsStay_create hlacks _ _

end Store

end CommandShell
