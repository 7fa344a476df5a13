import CommandShell.Proofs.Store.Shape

/-!
# Creating a file

A file is created under a name that a directory lacks. A walk that ended at the missing name ends at
the new file, one that failed at it still fails, and every other walk goes as before.

* `locate_creation` — what the creation changes for a path.
* `lookup_creation` — all that existed is found as before, and nothing else but the new file is.
-/

namespace CommandShell.Store

/-- A directory of the store that lacks a name, which can be entered there. -/
structure Lacks (s : Store) (dir : NodeId) (name : Bytes) : Prop where
  child : s.child dir name = .ok none
  dir : ∃ es up, s.node? dir = some (.dir es up true)

/-- The store with a new file under a name in a directory. -/
def create (s : Store) (dir : NodeId) (name : Bytes) (c : Content) (m : Mode) : Store :=
  (s.addNode dir name (.file c m)).1

variable {s : Store} {dir : NodeId} {name : Bytes} {c : Content} {m : Mode}

/-! ## Nodes -/

theorem node?_size (s : Store) : s.node? s.nodes.size = none := by
  simp [node?]

theorem create_eq {es : List (Bytes × NodeId)} {up : NodeId} {linked : Bool}
    (h : s.node? dir = some (.dir es up linked)) :
    s.create dir name c m =
      ⟨(s.nodes.setIfInBounds dir (.dir (es ++ [(name, s.nodes.size)]) up linked)).push
        (.file c m)⟩ := by
  simp only [create, addNode, h]

theorem node?_create_dir {es : List (Bytes × NodeId)} {up : NodeId} {linked : Bool}
    (h : s.node? dir = some (.dir es up linked)) :
    (s.create dir name c m).node? dir =
      some (.dir (es ++ [(name, s.nodes.size)]) up linked) := by
  have hlt : dir < s.nodes.size := (Array.getElem?_eq_some_iff.1 h).1
  rw [create_eq h]
  simp [node?, Array.getElem?_push, Nat.ne_of_lt hlt, hlt]

theorem node?_create_new (h : Lacks s dir name) :
    (s.create dir name c m).node? s.nodes.size = some (.file c m) := by
  obtain ⟨es, up, hdir⟩ := h.dir
  rw [create_eq hdir, node?, Array.getElem?_push, Array.size_setIfInBounds, if_pos rfl]

theorem node?_create_of_ne (h : Lacks s dir name) {id : NodeId} (hdir : id ≠ dir)
    (hnew : id ≠ s.nodes.size) : (s.create dir name c m).node? id = s.node? id := by
  obtain ⟨es, up, hnode⟩ := h.dir
  rw [create_eq hnode]
  simp [node?, Array.getElem?_push, hnew, Ne.symm hdir]

/-- No link comes or goes. -/
theorem node?_create_link (h : Lacks s dir name) (id : NodeId) (target : Bytes) :
    (s.create dir name c m).node? id = some (.link target) ↔
      s.node? id = some (.link target) := by
  obtain ⟨es, up, hnode⟩ := h.dir
  by_cases hnew : id = s.nodes.size
  · subst hnew
    simp [node?_create_new h, node?_size]
  by_cases hdir : id = dir
  · subst hdir
    simp [node?_create_dir hnode, hnode]
  rw [node?_create_of_ne h hdir hnew]

theorem isDir_create (h : Lacks s dir name) (id : NodeId) :
    (s.create dir name c m).isDir id = s.isDir id := by
  obtain ⟨es, up, hnode⟩ := h.dir
  by_cases hnew : id = s.nodes.size
  · subst hnew
    rw [isDir, isDir, node?_create_new h, node?_size]
  by_cases hdir : id = dir
  · subst hdir
    rw [isDir, isDir, node?_create_dir hnode, hnode]
  rw [isDir, isDir, node?_create_of_ne h hdir hnew]

/-! ## Walks -/

theorem child_create_self (h : Lacks s dir name) :
    (s.create dir name c m).child dir name = .ok (some s.nodes.size) := by
  obtain ⟨es, up, hnode⟩ := h.dir
  have hchild := h.child
  rw [child, hnode] at hchild
  rw [child, node?_create_dir hnode]
  -- The name is no `.` and no `..`, is short enough and has no entry.
  by_cases hhere : name = Path.here
  · simp [hhere] at hchild
  by_cases hup : name = Path.up
  · have hne : Path.up ≠ Path.here := by decide
    simp [hup, hne] at hchild
  by_cases hlong : Path.maxNameLength < name.length
  · simp [hhere, hup, hlong] at hchild
  have hlookup : es.lookup name = none := by simpa [hhere, hup, hlong] using hchild
  simp [hhere, hup, hlong, List.lookup_append, hlookup]

theorem child_create_of_ne (h : Lacks s dir name) {d : NodeId} {part : Bytes}
    (hne : ¬ (d = dir ∧ part = name)) :
    (s.create dir name c m).child d part = s.child d part := by
  obtain ⟨es, up, hnode⟩ := h.dir
  by_cases hnew : d = s.nodes.size
  · subst hnew
    rw [child, child, node?_create_new h, node?_size]
  by_cases hdir : d = dir
  · subst hdir
    have hpart : (part == name) = false := by simpa using fun hp => hne ⟨rfl, hp⟩
    rw [child, child, node?_create_dir hnode, hnode]
    simp [List.lookup_append, List.lookup_cons, hpart]
  rw [child, child, node?_create_of_ne h hdir hnew]

/-- Where a walk ends once the missing name leads to the new file. -/
def Place.fill (dir : NodeId) (name : Bytes) (new : NodeId) (p : Place) : Place :=
  if p = .vacant dir name then .found new else p

theorem Place.fill_missing (dir : NodeId) (name : Bytes) (new : NodeId) :
    (Place.vacant dir name).fill dir name new = .found new :=
  if_pos rfl

theorem Place.fill_of_ne {new : NodeId} {p : Place} (h : p ≠ .vacant dir name) :
    p.fill dir name new = p :=
  if_neg h

/-- Where a walk stops once the missing name leads to the new file. -/
def Stop.fill (dir : NodeId) (name : Bytes) (new : NodeId) : Stop → Stop
  | .place p => .place (p.fill dir name new)
  | stop => stop

/-- What succeeded before has the outcome that `f` tells, and what failed before still fails. -/
def Filled {ε α : Type} (f : α → α) (before after : Except ε α) : Prop :=
  match before with
  | .ok a => after = .ok (f a)
  | .error _ => ∃ e, after = .error e

theorem filled_ok {ε α : Type} {f : α → α} {a : α} {after : Except ε α} :
    Filled f (.ok a) after ↔ after = .ok (f a) :=
  Iff.rfl

theorem filled_error {ε α : Type} {f : α → α} {e : ε} {after : Except ε α} :
    Filled f (.error e) after ↔ ∃ e', after = .error e' :=
  Iff.rfl

/-- There is no way on from a file. -/
theorem walk_new_cons (h : Lacks s dir name) (createDir : Bool) (part : Bytes)
    (rest : List Bytes) :
    ∃ e, (s.create dir name c m).walk createDir s.nodes.size (part :: rest) = .error e := by
  have hchild : (s.create dir name c m).child s.nodes.size part = .error .notDirectory := by
    rw [child, node?_create_new h]
  rw [walk, hchild]
  split
  · exact ⟨_, rfl⟩
  · exact ⟨_, rfl⟩

theorem walk_creation (h : Lacks s dir name) (createDir : Bool) (start : NodeId)
    (parts : List Bytes) :
    Filled (Stop.fill dir name s.nodes.size) (s.walk createDir start parts)
      ((s.create dir name c m).walk createDir start parts) := by
  induction parts generalizing start with
  | nil =>
    have hne : Place.found start ≠ .vacant dir name := by simp
    simp [Filled, walk, Stop.fill, Place.fill_of_ne hne]
  | cons part rest ih =>
    cases hlast : createDir && rest.isEmpty with
    | true =>
      rw [walk, walk, if_pos hlast, if_pos hlast]
      exact ⟨_, rfl⟩
    | false =>
      by_cases hhere : start = dir ∧ part = name
      · -- The walk comes to the missing name.
        obtain ⟨rfl, rfl⟩ := hhere
        have hnode : ∀ target, (s.create start part c m).node? s.nodes.size ≠
            some (.link target) := by
          simp [node?_create_new h]
        rw [walk_cons_none hlast h.child, walk_cons_node hlast (child_create_self h) hnode]
        cases rest with
        | nil => simp [Filled, walk, Stop.fill, Place.fill_missing]
        | cons part rest => exact walk_new_cons h createDir part rest
      · -- Any other step is the same in both stores.
        have hchild : (s.create dir name c m).child start part = s.child start part :=
          child_create_of_ne h hhere
        cases hnext : s.child start part with
        | error e =>
          rw [walk_cons_error hlast hnext, walk_cons_error hlast (hchild.trans hnext)]
          exact ⟨e, rfl⟩
        | ok next =>
          cases next with
          | none =>
            have hne : Place.vacant start part ≠ .vacant dir name := by simpa using hhere
            rw [walk_cons_none hlast hnext, walk_cons_none hlast (hchild.trans hnext)]
            cases rest.isEmpty <;> simp [Filled, Stop.fill, Place.fill_of_ne hne]
          | some id =>
            by_cases hlink : ∃ target, s.node? id = some (.link target)
            · obtain ⟨target, hs⟩ := hlink
              rw [walk_cons_link hlast hnext hs,
                walk_cons_link hlast (hchild.trans hnext) ((node?_create_link h id target).2 hs)]
              rfl
            · have hs : ∀ target, s.node? id ≠ some (.link target) :=
                fun target hs => hlink ⟨target, hs⟩
              have ht : ∀ target, (s.create dir name c m).node? id ≠ some (.link target) :=
                fun target ht => hs target ((node?_create_link h id target).1 ht)
              rw [walk_cons_node hlast hnext hs, walk_cons_node hlast (hchild.trans hnext) ht]
              exact ih id

theorem follow_creation (h : Lacks s dir name) (create : Bool) (budget : Nat) (start : NodeId)
    (parts : List Bytes) (slash : Bool) :
    Filled (fun q => (q.1.fill dir name s.nodes.size, q.2))
      (s.follow create budget start parts slash)
      ((s.create dir name c m).follow create budget start parts slash) := by
  induction budget using Nat.strongRecOn generalizing start parts slash with
  | ind budget ih =>
    have hwalk := walk_creation h (create && slash) start parts (c := c) (m := m)
    cases hs : s.walk (create && slash) start parts with
    | error e =>
      rw [hs, filled_error] at hwalk
      obtain ⟨e', ht⟩ := hwalk
      rw [follow_error hs, follow_error ht]
      exact ⟨e', rfl⟩
    | ok stop =>
      rw [hs, filled_ok] at hwalk
      cases stop with
      | place p =>
        rw [follow_place hs, follow_place hwalk]
        rfl
      | link dir' target rest =>
        -- Both walks stop at the link, with the same number of links left to follow.
        cases budget with
        | zero =>
          rw [follow_link_zero hs, follow_link_zero hwalk]
          exact ⟨_, rfl⟩
        | succ budget =>
          rw [follow_link_succ hs, follow_link_succ hwalk]
          exact ih budget (Nat.lt_succ_self budget) _ _ _

/-- A path that led to the missing name leads to the new file, and what a path led to otherwise it
still leads to. -/
theorem locate_creation (h : Lacks s dir name) (create : Bool) (start : NodeId) (path : Bytes) :
    Filled (fun q => (q.1.fill dir name s.nodes.size, q.2)) (s.locate create start path)
      ((s.create dir name c m).locate create start path) := by
  rw [locate, locate]
  cases Path.parse path with
  | error e => exact ⟨e, rfl⟩
  | ok p =>
    have hfollow := follow_creation h create maxLinks (if p.absolute then root else start)
      p.parts p.slash (c := c) (m := m)
    cases hs : s.follow create maxLinks (if p.absolute then root else start) p.parts p.slash with
    | error e =>
      rw [hs, filled_error] at hfollow
      obtain ⟨e', ht⟩ := hfollow
      simp only [hs, ht]
      exact ⟨_, rfl⟩
    | ok q =>
      rw [hs, filled_ok] at hfollow
      simp only [hs, hfollow]
      rfl

theorem locate_create_of_ok (h : Lacks s dir name) {create slash : Bool} {start : NodeId}
    {path : Bytes} {p : Place} (hs : s.locate create start path = .ok (p, slash)) :
    (s.create dir name c m).locate create start path =
      .ok (p.fill dir name s.nodes.size, slash) := by
  have hlocate := locate_creation h create start path (c := c) (m := m)
  rw [hs, filled_ok] at hlocate
  exact hlocate

/-- What was there is found as before, and nothing is found that was not there but the new file. -/
theorem lookup_creation (h : Lacks s dir name) {id : NodeId} (hnew : id ≠ s.nodes.size)
    (start : NodeId) (path : Bytes) :
    (s.create dir name c m).lookup start path = .ok id ↔ s.lookup start path = .ok id := by
  have hlocate := locate_creation h false start path (c := c) (m := m)
  have hfile : (s.create dir name c m).isDir s.nodes.size = false := by
    rw [isDir, node?_create_new h]
  rw [lookup, lookup]
  cases hs : s.locate false start path with
  | error e =>
    rw [hs, filled_error] at hlocate
    obtain ⟨e', ht⟩ := hlocate
    simp [ht]
  | ok q =>
    obtain ⟨p, slash⟩ := q
    rw [locate_create_of_ok h hs]
    by_cases hp : p = .vacant dir name
    · -- The new file is found now, and it is not `id`.
      subst hp
      cases slash <;> simp [Place.fill_missing, hfile, Ne.symm hnew]
    · rw [Place.fill_of_ne hp]
      cases p <;> simp [isDir_create h]

end CommandShell.Store
