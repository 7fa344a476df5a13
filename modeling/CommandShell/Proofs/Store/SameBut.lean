import CommandShell.Proofs.Routing.Stages
import CommandShell.Proofs.Store.Start

/-!
# Stores that differ in one file

Two stores that are the same but for what one file holds lead every path to the same place, name
the directories alike, and open and write the same nodes with the same success. They start the same
programs, too, as long as the system does not look into that file: `Store.opened` tells into which
files it looks to start a path.

* `SameBut.openFile`, `SameBut.append` — opening and writing in both stores.
* `SameBut.start`, `SameBut.startFirst` — starting a path, and the first of several.
-/

namespace CommandShell

/-- Two outcomes are the same failure, or successes of which a relation holds. -/
inductive Alike {ε α : Type} (r : α → α → Prop) : Except ε α → Except ε α → Prop where
  | error (e : ε) : Alike r (.error e) (.error e)
  | ok {a b : α} (h : r a b) : Alike r (.ok a) (.ok b)

namespace Store

/-! ## The same shape -/

section

variable {s t : Store}

theorem node?_eq_none_iff {id : NodeId} : s.node? id = none ↔ s.nodes.size ≤ id := by
  simp [node?]

theorem size_le_of_sameShape (h : SameShape s t) : t.nodes.size ≤ s.nodes.size := by
  refine node?_eq_none_iff.1 ?_
  rcases h s.nodes.size with heq | ⟨c, c', m, hs, _⟩
  · rw [heq, node?_size]
  · rw [node?_size] at hs
    cases hs

theorem size_of_sameShape (h : SameShape s t) : t.nodes.size = s.nodes.size :=
  Nat.le_antisymm (size_le_of_sameShape h) (size_le_of_sameShape h.symm)

theorem entries_of_sameShape (h : SameShape s t) (id : NodeId) : t.entries id = s.entries id := by
  rcases h id with heq | ⟨c, c', m, hs, ht⟩
  · rw [entries, entries, heq]
  · rw [entries, entries, hs, ht]

theorem namesTo_of_sameShape (h : SameShape s t) (fuel : Nat) (id : NodeId) :
    t.namesTo fuel id = s.namesTo fuel id := by
  induction fuel generalizing id with
  | zero => rfl
  | succ fuel ih =>
    rw [namesTo, namesTo]
    simp only [entries_of_sameShape h, ih]
    rcases h id with heq | ⟨c, c', m, hs, ht⟩
    · rw [heq]
    · simp only [hs, ht]

/-- A directory has the same path in stores of the same shape. -/
theorem pathOf_of_sameShape (h : SameShape s t) (id : NodeId) : t.pathOf id = s.pathOf id := by
  rw [pathOf, pathOf, size_of_sameShape h, namesTo_of_sameShape h]

theorem Lacks.of_sameShape (h : SameShape s t) {dir : NodeId} {name : Bytes}
    (hlacks : Lacks s dir name) : Lacks t dir name where
  child := (child_of_sameShape h dir name).trans hlacks.child
  dir := by
    obtain ⟨es, up, hnode⟩ := hlacks.dir
    exact ⟨es, up, (h.node?_eq (by simp [hnode])).trans hnode⟩

end

/-! ## The same but for one file -/

/-- Two stores are the same, except that one node may be a file that holds something else. -/
structure SameBut (log : NodeId) (s t : Store) : Prop where
  shape : SameShape s t
  others : ∀ id, id ≠ log → t.node? id = s.node? id

variable {log id cwd : NodeId} {s t u : Store}

theorem SameBut.refl (log : NodeId) (s : Store) : SameBut log s s :=
  ⟨.refl s, fun _ _ => rfl⟩

theorem SameBut.trans (h : SameBut log s t) (h' : SameBut log t u) : SameBut log s u :=
  ⟨h.shape.trans h'.shape, fun id hid => (h'.others id hid).trans (h.others id hid)⟩

/-- Writing to the file does not matter. -/
theorem sameBut_append (log : NodeId) (s : Store) (b : Bytes) : SameBut log s (s.append log b) where
  shape := sameShape_append s log b
  others := by
    intro id hid
    by_cases hfile : ∃ c m, s.node? log = some (.file c m)
    · obtain ⟨c, m, hnode⟩ := hfile
      rw [append_file hnode]
      exact node?_setNode_of_ne hid _
    · rw [append_of_not_file fun c m hnode => hfile ⟨c, m, hnode⟩]

/-- A node is the same in both stores, or it is the file in which they differ. -/
theorem SameBut.node? (h : SameBut log s t) (id : NodeId) :
    t.node? id = s.node? id ∨
      id = log ∧ ∃ c c' m, s.node? id = some (.file c m) ∧ t.node? id = some (.file c' m) := by
  by_cases hid : id = log
  · exact (h.shape id).imp_right fun hfile => ⟨hid, hfile⟩
  · exact Or.inl (h.others id hid)

/-! ## Opening and writing -/

/-- The content of a file is replaced in both stores, by the same unless it is the file in which
they differ. -/
theorem SameBut.setFile (h : SameBut log s t) {c c' d d' : Content} {m : Mode}
    (hs : s.node? id = some (.file c m)) (ht : t.node? id = some (.file c' m))
    (hsame : id ≠ log → d' = d) :
    SameBut log (s.setNode id (.file d m)) (t.setNode id (.file d' m)) where
  shape := ((sameShape_setNode_file hs d).symm.trans h.shape).trans (sameShape_setNode_file ht d')
  others := by
    intro j hj
    by_cases hid : j = id
    · subst hid
      rw [node?_setNode_self ht, node?_setNode_self hs, hsame hj]
    · rw [node?_setNode_of_ne hid, node?_setNode_of_ne hid, h.others j hj]

/-- A file is created in both stores, with the same number. -/
theorem SameBut.create (h : SameBut log s t) {dir : NodeId} {name : Bytes}
    (hlacks : Lacks s dir name) (c : Content) (m : Mode) :
    SameBut log (s.create dir name c m) (t.create dir name c m) := by
  have hlacks' := hlacks.of_sameShape h.shape
  have hsize := size_of_sameShape h.shape
  have hnodes : ∀ j, (t.create dir name c m).node? j = (s.create dir name c m).node? j ∨
      ((s.create dir name c m).node? j = s.node? j ∧
        (t.create dir name c m).node? j = t.node? j) := by
    intro j
    by_cases hnew : j = s.nodes.size
    · subst hnew
      exact Or.inl (by rw [node?_create_new hlacks, ← hsize, node?_create_new hlacks'])
    by_cases hdir : j = dir
    · subst hdir
      obtain ⟨es, up, hs⟩ := hlacks.dir
      have ht : t.node? j = some (.dir es up true) := (h.shape.node?_eq (by simp [hs])).trans hs
      exact Or.inl (by rw [node?_create_dir hs, node?_create_dir ht, hsize])
    exact Or.inr ⟨node?_create_of_ne hlacks hdir hnew,
      node?_create_of_ne hlacks' hdir (hsize ▸ hnew)⟩
  constructor
  case shape =>
    intro j
    rcases hnodes j with heq | ⟨hs, ht⟩
    · exact Or.inl heq
    · rw [hs, ht]
      exact h.shape j
  case others =>
    intro j hlog
    rcases hnodes j with heq | ⟨hs, ht⟩
    · exact heq
    · rw [hs, ht, h.others j hlog]

/-- Opening a path succeeds in both stores, with the same node, or fails in both. -/
theorem SameBut.openFile (h : SameBut log s t) (cwd : NodeId) (path : Bytes) (mode : WriteMode) :
    Alike (fun p q => SameBut log p.1 q.1 ∧ q.2 = p.2) (s.openFile cwd path mode)
      (t.openFile cwd path mode) := by
  rw [Store.openFile, Store.openFile, locate_of_sameShape h.shape]
  cases hlocate : s.locate true cwd path with
  | error e => exact .error e
  | ok q =>
    obtain ⟨p | ⟨dir, name⟩, slash⟩ := q
    · rcases h.node? p with heq | ⟨rfl, c, c', m, hs, ht⟩
      · simp only [heq]
        rcases hs : s.node? p with _ | ⟨c, m⟩ | ⟨es, up, linked⟩ | target | d
        · exact .error _
        · exact .ok ⟨h.setFile hs (heq.trans hs) fun _ => rfl, rfl⟩
        · exact .error _
        · exact .error _
        · exact .ok ⟨h, rfl⟩
      · simp only [hs, ht]
        exact .ok ⟨h.setFile hs ht fun hne => absurd rfl hne, rfl⟩
    · rcases h.shape dir with heq | ⟨c, c', m, hs, ht⟩
      · simp only [heq]
        split
        · next es up hs =>
          have hlacks : Lacks s dir name := ⟨child_of_locate_vacant hlocate, es, up, hs⟩
          have hcreate := h.create hlacks (.ofBytes []) Mode.plain
          simp only [Store.create, addNode, hs, heq] at hcreate ⊢
          exact .ok ⟨hcreate, size_of_sameShape h.shape⟩
        · exact .error _
      · simp only [hs, ht]
        exact .error _

/-- The same is written to a node in both stores. -/
theorem SameBut.append (h : SameBut log s t) (id : NodeId) (b : Bytes) :
    SameBut log (s.append id b) (t.append id b) := by
  rcases h.node? id with heq | ⟨rfl, c, c', m, hs, ht⟩
  · by_cases hfile : ∃ c m, s.node? id = some (.file c m)
    · obtain ⟨c, m, hs⟩ := hfile
      have ht := heq.trans hs
      rw [append_file hs, append_file ht]
      exact h.setFile hs ht fun _ => rfl
    · have hnot : ∀ c m, s.node? id ≠ some (.file c m) := fun c m hs => hfile ⟨c, m, hs⟩
      rw [append_of_not_file hnot, append_of_not_file (by rwa [heq])]
      exact h
  · rw [append_file hs, append_file ht]
    exact h.setFile hs ht fun hne => absurd rfl hne

/-! ## Starting programs -/

/-- The files into which the system looks to start a path: the one that the path leads to, if it may
be run, and those of its interpreters. -/
def opened (s : Store) (cwd : NodeId) : (budget : Nat) → Bytes → List NodeId
  | budget, path =>
    match s.lookup cwd path with
    | .error _ => []
    | .ok id =>
      match s.node? id with
      | some (.file c m) =>
        if !m.canRun then []
        else
          id :: match budget, Script.interpreter? c.bytes with
            | budget + 1, some (name, _) => opened s cwd budget name
            | _, _ => []
      | _ => []

/-- The files into which the system looks to start the first of several paths. -/
def openedFirst (s : Store) (cwd : NodeId) (fits : Bool) : List Bytes → List NodeId
  | [] => []
  | path :: rest =>
    s.opened cwd maxOpened path ++
      match s.start cwd fits maxOpened path with
      | .error (.errno e) => if e ∈ passedOver then s.openedFirst cwd fits rest else []
      | _ => []

variable {fits : Bool}

/-- What a path starts depends on no file into which the system does not look. -/
theorem SameBut.start (h : SameBut log s t) {budget : Nat} {path : Bytes}
    (hlog : log ∉ s.opened cwd budget path) :
    t.start cwd fits budget path = s.start cwd fits budget path := by
  induction budget using Nat.strongRecOn generalizing path with
  | ind budget ih =>
    unfold Store.start
    unfold opened at hlog
    rw [lookup_of_sameShape h.shape]
    cases hlookup : s.lookup cwd path with
    | error e => rfl
    | ok id =>
      simp only [hlookup] at hlog ⊢
      rcases h.node? id with heq | ⟨rfl, c, c', m, hs, ht⟩
      · rw [heq]
        rcases hs : s.node? id with _ | ⟨c, m⟩ | ⟨es, up, linked⟩ | target | d
        · rfl
        · -- The same file is found in both, and its interpreter is started with a smaller budget.
          cases budget with
          | zero => rfl
          | succ budget =>
            cases c with
            | program p => cases budget <;> rfl
            | data reversed =>
              cases hrun : m.canRun with
              | false => simp [hrun]
              | true =>
                cases hname : Script.interpreter? (Content.data reversed).bytes with
                | none => simp only [hname]
                | some found =>
                  obtain ⟨name, argument⟩ := found
                  have hnext : log ∉ s.opened cwd budget name := by
                    simp only [hs, hrun, hname] at hlog
                    exact fun hmem => hlog (List.mem_cons_of_mem id hmem)
                  simp only [hname, ih budget (Nat.lt_succ_self budget) hnext]
        · rfl
        · rfl
        · rfl
      · cases hrun : m.canRun with
        | false => simp [hs, ht, hrun]
        | true => simp [hs, hrun] at hlog

/-- So does what a search for several paths starts. -/
theorem SameBut.startFirst (h : SameBut log s t) {failure : Errno} {paths : List Bytes}
    (hlog : log ∉ s.openedFirst cwd fits paths) :
    t.startFirst cwd fits failure paths = s.startFirst cwd fits failure paths := by
  induction paths generalizing failure with
  | nil => rfl
  | cons path rest ih =>
    rw [openedFirst, List.mem_append, not_or] at hlog
    obtain ⟨hhere, hrest⟩ := hlog
    rw [Store.startFirst, Store.startFirst, h.start hhere]
    rcases hstart : s.start cwd fits maxOpened path with e | found
    · cases e with
      | errno e =>
        simp only [hstart] at hrest
        cases e with
        | accessDenied | noEntry | notDirectory =>
          -- The search goes on behind the path.
          rw [if_pos (by decide)] at hrest
          exact ih hrest
        | _ => rfl
      | nulInPath | nulInArgument | notUtf8 | consoleFull | flushFailed => rfl
    · rfl

end Store

end CommandShell
