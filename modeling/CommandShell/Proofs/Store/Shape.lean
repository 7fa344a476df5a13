import CommandShell.Store.File

/-!
# What a walk sees

A walk looks at the entries of directories and the targets of links, and never into a file. Two
stores that differ in the content of files only have the same shape, and every path leads to the
same place in both.

* `locate_of_sameShape`, `lookup_of_sameShape` — paths depend on the shape only.
* `sameShape_append` — writing to an open node keeps the shape.
-/

namespace CommandShell

namespace Content

theorem append_nil (c : Content) : c.append [] = c := by
  cases c <;> simp [append]

theorem append_append (c : Content) (a b : Bytes) : (c.append a).append b = c.append (a ++ b) := by
  cases c with
  | data reversed => simp [append]
  | program p =>
    by_cases ha : a = []
    · simp [append, ha]
    · simp [append, ha, ofBytes]

end Content

namespace Store

/-! ## Single nodes -/

theorem node?_setNode_self {s : Store} {id : NodeId} {n : Node} (h : s.node? id = some n)
    (n' : Node) : (s.setNode id n').node? id = some n' := by
  have hlt : id < s.nodes.size := (Array.getElem?_eq_some_iff.1 h).1
  simp [node?, setNode, hlt]

/-- A node is replaced by itself. -/
theorem setNode_self {s : Store} {id : NodeId} {n : Node} (h : s.node? id = some n) :
    s.setNode id n = s := by
  obtain ⟨nodes⟩ := s
  obtain ⟨hlt, hget⟩ := Array.getElem?_eq_some_iff.1 h
  have hset : nodes.setIfInBounds id n = nodes := by
    rw [← hget, Array.setIfInBounds_def, dif_pos hlt]
    exact Array.set_getElem_self hlt
  rw [setNode, hset]

/-- Of two nodes that are put in one place, the second one stays. -/
theorem setNode_setNode (s : Store) (id : NodeId) (n n' : Node) :
    (s.setNode id n).setNode id n' = s.setNode id n' := by
  rw [setNode, setNode, setNode, Array.setIfInBounds_setIfInBounds]

theorem node?_setNode_of_ne {s : Store} {id j : NodeId} (h : j ≠ id) (n : Node) :
    (s.setNode id n).node? j = s.node? j := by
  simp [node?, setNode, Ne.symm h]

/-! ## Single parts of a walk -/

section

variable {s : Store} {createDir : Bool} {dir id : NodeId} {name : Bytes} {rest : List Bytes}

theorem walk_cons_error {e : Errno} (hlast : (createDir && rest.isEmpty) = false)
    (hchild : s.child dir name = .error e) :
    s.walk createDir dir (name :: rest) = .error e := by
  simp only [walk, hlast, hchild, Bool.false_eq_true, if_false]

theorem walk_cons_none (hlast : (createDir && rest.isEmpty) = false)
    (hchild : s.child dir name = .ok none) :
    s.walk createDir dir (name :: rest) =
      if rest.isEmpty then .ok (.place (.vacant dir name)) else .error .noEntry := by
  simp only [walk, hlast, hchild, Bool.false_eq_true, if_false]

theorem walk_cons_link {target : Bytes} (hlast : (createDir && rest.isEmpty) = false)
    (hchild : s.child dir name = .ok (some id)) (hnode : s.node? id = some (.link target)) :
    s.walk createDir dir (name :: rest) = .ok (.link dir target rest) := by
  simp only [walk, hlast, hchild, hnode, Bool.false_eq_true, if_false]

theorem walk_cons_node (hlast : (createDir && rest.isEmpty) = false)
    (hchild : s.child dir name = .ok (some id))
    (hnode : ∀ target, s.node? id ≠ some (.link target)) :
    s.walk createDir dir (name :: rest) = s.walk createDir id rest := by
  simp only [walk, hlast, hchild, Bool.false_eq_true, if_false]

end

/-! ## From link to link -/

section

variable {s : Store} {create slash : Bool} {budget : Nat} {start dir : NodeId}
  {parts rest : List Bytes} {target : Bytes} {p : Place}

theorem follow_error {e : Errno} (hwalk : s.walk (create && slash) start parts = .error e) :
    s.follow create budget start parts slash = .error e := by
  rw [follow, hwalk]

theorem follow_place (hwalk : s.walk (create && slash) start parts = .ok (.place p)) :
    s.follow create budget start parts slash = .ok (p, slash) := by
  rw [follow, hwalk]

theorem follow_link_zero
    (hwalk : s.walk (create && slash) start parts = .ok (.link dir target rest)) :
    s.follow create 0 start parts slash = .error .tooManyLinks := by
  rw [follow, hwalk]

/-- Where a link leads on. -/
theorem follow_link_succ
    (hwalk : s.walk (create && slash) start parts = .ok (.link dir target rest)) :
    s.follow create (budget + 1) start parts slash =
      s.follow create budget (if (Path.split target).absolute then root else dir)
        ((Path.split target).parts ++ rest)
        (if rest.isEmpty then slash || (Path.split target).slash else slash) := by
  rw [follow, hwalk]

/-- A path that leads somewhere does so at once, or by way of a link. -/
theorem follow_ok {slash' : Bool}
    (h : s.follow create budget start parts slash = .ok (p, slash')) :
    (s.walk (create && slash) start parts = .ok (.place p) ∧ slash' = slash) ∨
      ∃ budget' dir target rest, budget = budget' + 1 ∧
        s.walk (create && slash) start parts = .ok (.link dir target rest) ∧
        s.follow create budget' (if (Path.split target).absolute then root else dir)
          ((Path.split target).parts ++ rest)
          (if rest.isEmpty then slash || (Path.split target).slash else slash) =
            .ok (p, slash') := by
  cases hwalk : s.walk (create && slash) start parts with
  | error e =>
    rw [follow_error hwalk] at h
    cases h
  | ok stop =>
    cases stop with
    | place q =>
      rw [follow_place hwalk] at h
      cases h
      exact Or.inl ⟨rfl, rfl⟩
    | link dir target rest =>
      cases budget with
      | zero =>
        rw [follow_link_zero hwalk] at h
        cases h
      | succ budget =>
        rw [follow_link_succ hwalk] at h
        exact Or.inr ⟨budget, dir, target, rest, rfl, rfl, h⟩

end

/-! ## Shapes -/

/-- Two stores have the same nodes, except that a file may hold something else. -/
def SameShape (s t : Store) : Prop :=
  ∀ id, t.node? id = s.node? id ∨
    ∃ c c' m, s.node? id = some (.file c m) ∧ t.node? id = some (.file c' m)

theorem SameShape.refl (s : Store) : SameShape s s :=
  fun _ => Or.inl rfl

theorem SameShape.symm {s t : Store} (h : SameShape s t) : SameShape t s := by
  intro id
  rcases h id with heq | ⟨c, c', m, hs, ht⟩
  · exact Or.inl heq.symm
  · exact Or.inr ⟨c', c, m, ht, hs⟩

theorem SameShape.trans {s t u : Store} (h : SameShape s t) (h' : SameShape t u) :
    SameShape s u := by
  intro id
  rcases h id with heq | ⟨c, c', m, hs, ht⟩
  · rw [← heq]
    exact h' id
  · rcases h' id with heq' | ⟨_, c'', m', ht', hu⟩
    · exact Or.inr ⟨c, c', m, hs, heq'.trans ht⟩
    · rw [ht] at ht'
      cases ht'
      exact Or.inr ⟨c, c'', m, hs, hu⟩

theorem sameShape_setNode_file {s : Store} {id : NodeId} {c : Content} {m : Mode}
    (h : s.node? id = some (.file c m)) (c' : Content) :
    SameShape s (s.setNode id (.file c' m)) := by
  intro j
  by_cases hj : j = id
  · subst hj
    exact Or.inr ⟨c, c', m, h, node?_setNode_self h _⟩
  · exact Or.inl (node?_setNode_of_ne hj _)

variable {s t : Store}

theorem isDir_of_sameShape (h : SameShape s t) (id : NodeId) : t.isDir id = s.isDir id := by
  rcases h id with heq | ⟨c, c', m, hs, ht⟩
  · rw [isDir, isDir, heq]
  · rw [isDir, isDir, hs, ht]

theorem child_of_sameShape (h : SameShape s t) (dir : NodeId) (name : Bytes) :
    t.child dir name = s.child dir name := by
  rcases h dir with heq | ⟨c, c', m, hs, ht⟩
  · rw [child, child, heq]
  · rw [child, child, hs, ht]

theorem walk_of_sameShape (h : SameShape s t) (createDir : Bool) (dir : NodeId)
    (parts : List Bytes) : t.walk createDir dir parts = s.walk createDir dir parts := by
  induction parts generalizing dir with
  | nil => rfl
  | cons name rest ih =>
    rw [walk, walk, child_of_sameShape h, isDir_of_sameShape h]
    split
    · rfl
    · cases hchild : s.child dir name with
      | error e => rfl
      | ok next =>
        cases next with
        | none => rfl
        | some id =>
          rcases h id with heq | ⟨c, c', m, hs, ht⟩
          · simp only [heq, ih]
          · simp only [hs, ht, ih]

theorem follow_of_sameShape (h : SameShape s t) (create : Bool) (budget : Nat) (dir : NodeId)
    (parts : List Bytes) (slash : Bool) :
    t.follow create budget dir parts slash = s.follow create budget dir parts slash := by
  induction budget generalizing dir parts slash with
  | zero =>
    rw [follow, follow, walk_of_sameShape h]
  | succ budget ih =>
    rw [follow, follow, walk_of_sameShape h]
    simp only [ih]

theorem locate_of_sameShape (h : SameShape s t) (create : Bool) (cwd : NodeId) (path : Bytes) :
    t.locate create cwd path = s.locate create cwd path := by
  rw [locate, locate]
  simp only [follow_of_sameShape h]

theorem lookup_of_sameShape (h : SameShape s t) (cwd : NodeId) (path : Bytes) :
    t.lookup cwd path = s.lookup cwd path := by
  rw [lookup, lookup, locate_of_sameShape h]
  simp only [isDir_of_sameShape h]

/-! ## Writing to an open node -/

theorem append_file {id : NodeId} {c : Content} {m : Mode} (h : s.node? id = some (.file c m))
    (b : Bytes) : s.append id b = s.setNode id (.file (c.append b) m) := by
  simp [append, h]

/-- Writing to a node that is no file leaves the store as it is. -/
theorem append_of_not_file {id : NodeId} (h : ∀ c m, s.node? id ≠ some (.file c m)) (b : Bytes) :
    s.append id b = s := by
  rw [append]
  split
  · next c m hnode => exact absurd hnode (h c m)
  · rfl

theorem sameShape_append (s : Store) (id : NodeId) (b : Bytes) : SameShape s (s.append id b) := by
  by_cases hfile : ∃ c m, s.node? id = some (.file c m)
  · obtain ⟨c, m, hnode⟩ := hfile
    rw [append_file hnode]
    exact sameShape_setNode_file hnode _
  · rw [append_of_not_file fun c m hnode => hfile ⟨c, m, hnode⟩]
    exact SameShape.refl s

/-- Nothing is written. -/
theorem append_nil (s : Store) (id : NodeId) : s.append id [] = s := by
  by_cases hfile : ∃ c m, s.node? id = some (.file c m)
  · obtain ⟨c, m, hnode⟩ := hfile
    rw [append_file hnode, Content.append_nil]
    exact setNode_self hnode
  · exact append_of_not_file (fun c m hnode => hfile ⟨c, m, hnode⟩) _

/-- What is written in two pieces is written as one. -/
theorem append_append (s : Store) (id : NodeId) (a b : Bytes) :
    (s.append id a).append id b = s.append id (a ++ b) := by
  by_cases hfile : ∃ c m, s.node? id = some (.file c m)
  · obtain ⟨c, m, hnode⟩ := hfile
    rw [append_file hnode, append_file hnode, append_file (node?_setNode_self hnode _),
      setNode_setNode, Content.append_append]
  · have hnot : ∀ c m, s.node? id ≠ some (.file c m) := fun c m hnode => hfile ⟨c, m, hnode⟩
    rw [append_of_not_file hnot, append_of_not_file hnot, append_of_not_file hnot]

end Store

end CommandShell
