import CommandShell.Proofs.Store.Absolute
import CommandShell.Proofs.Text.Encoding

/-!
# What is found in a directory is listed there

A path that ends in a name leads through the directory before it: the directory itself can be
opened, and it lists the name. Only the names `.` and `..` are not listed, and they lead to
directories.

* `Path.split_below` — the parts of a path that ends in a name.
* `walk_append`, `follow_append` — a path in two parts is followed part by part.
* `listed_of_isRunnable` — a file that may be run is listed in its directory.
-/

namespace CommandShell

/-! ## Paths in two parts -/

namespace Path

variable {dir name : Bytes} {p : Path}

/-- A name below a directory is the last part of its path. -/
theorem split_below (hdir : dir ≠ []) (hne : name ≠ []) (hname : separator ∉ name) :
    split (dir ++ separator :: name) =
      { split dir with parts := (split dir).parts ++ [name], slash := false } := by
  have hlast : (dir ++ separator :: name).getLast? ≠ some separator := by
    intro h
    rw [List.getLast?_append, List.getLast?_cons, List.getLast?_eq_some_getLast hne,
      Option.getD_some, Option.some_or] at h
    have hmem := List.getLast_mem hne
    rw [Option.some.inj h] at hmem
    exact hname hmem
  obtain ⟨b, bs, rfl⟩ := List.exists_cons_of_ne_nil hdir
  have hpart : [name].filter (fun p => !p.isEmpty) = [name] := by
    rw [List.filter_eq_self]
    intro p hp
    obtain rfl := List.mem_singleton.1 hp
    simpa using hne
  simp only [split, pieces, decide_eq_false hlast]
  rw [List.splitOn_append_cons_self, List.splitOn_eq_singleton hname, List.filter_append, hpart]
  rfl

/-- A directory that has a path below it has a path. -/
theorem parse_of_parse_below (hdir : dir ≠ []) (h : parse (dir ++ separator :: name) = .ok p) :
    parse dir = .ok (split dir) := by
  rw [parse] at h
  split at h
  · cases h
  next hnul =>
    split at h
    · cases h
    · split at h
      · cases h
      next hlong =>
        have hnul' : ¬ dir.contains 0 = true := by
          rw [List.contains_iff_mem] at hnul ⊢
          exact fun hmem => hnul (List.mem_append_left _ hmem)
        have hlong' : ¬ maxLength < dir.length := by
          rw [List.length_append] at hlong
          omega
        have hempty : ¬ dir.isEmpty = true := by simpa using hdir
        rw [parse, if_neg hnul', if_neg hempty, if_neg hlong']

end Path

namespace Store

variable {s : Store} {start d id : NodeId} {name : Bytes} {parts rest : List Bytes}

/-! ## A path is followed part by part -/

/-- The rest of a path is walked from the directory that its first parts lead to. -/
theorem walk_append (s : Store) (start : NodeId) (parts : List Bytes) (hrest : rest ≠ []) :
    s.walk false start (parts ++ rest) =
      match s.walk false start parts with
      | .error e => .error e
      | .ok (.place (.found d)) => s.walk false d rest
      | .ok (.place (.vacant ..)) => .error .noEntry
      | .ok (.link d target after) => .ok (.link d target (after ++ rest)) := by
  induction parts generalizing start with
  | nil => rfl
  | cons part parts ih =>
    have hlast : ∀ l : List Bytes, (false && l.isEmpty) = false := fun _ => rfl
    rw [List.cons_append]
    cases hchild : s.child start part with
    | error e => rw [walk_cons_error (hlast _) hchild, walk_cons_error (hlast _) hchild]
    | ok next =>
      cases next with
      | none =>
        have hne : (parts ++ rest).isEmpty = false := by simp [hrest]
        rw [walk_cons_none (hlast _) hchild, walk_cons_none (hlast _) hchild, hne]
        cases parts.isEmpty <;> rfl
      | some id =>
        by_cases hlink : ∃ target, s.node? id = some (.link target)
        · obtain ⟨target, hnode⟩ := hlink
          rw [walk_cons_link (hlast _) hchild hnode, walk_cons_link (hlast _) hchild hnode]
        · have hnode : ∀ target, s.node? id ≠ some (.link target) :=
            fun target hnode => hlink ⟨target, hnode⟩
          rw [walk_cons_node (hlast _) hchild hnode, walk_cons_node (hlast _) hchild hnode, ih]

theorem follow_congr {budget : Nat} {slash : Bool} {start' : NodeId} {parts' : List Bytes}
    (h : s.walk false start parts = s.walk false start' parts') :
    s.follow false budget start parts slash = s.follow false budget start' parts' slash := by
  rw [follow, follow]
  simp only [Bool.false_and, h]

/-- A path leads through the directory that its first parts lead to. -/
theorem follow_append {budget : Nat} {slash slash' : Bool} {p : Place} (hrest : rest ≠ [])
    (h : s.follow false budget start (parts ++ rest) slash = .ok (p, slash')) (demand : Bool) :
    ∃ d demand' budget', s.follow false budget start parts demand = .ok (.found d, demand') ∧
      s.follow false budget' d rest slash = .ok (p, slash') := by
  induction budget using Nat.strongRecOn generalizing start parts demand with
  | ind budget ih =>
    have hboth := s.walk_append start parts hrest
    rcases hwalk : s.walk false start parts with e | ⟨d⟩ | ⟨d, target, after⟩
    · rw [hwalk] at hboth
      rw [follow_error hboth] at h
      cases h
    · cases d with
      | found d =>
        rw [hwalk] at hboth
        rw [follow_congr hboth] at h
        exact ⟨d, demand, budget, follow_place hwalk, h⟩
      | vacant dir name =>
        rw [hwalk] at hboth
        rw [follow_error hboth] at h
        cases h
    · rw [hwalk] at hboth
      cases budget with
      | zero =>
        rw [follow_link_zero hboth] at h
        cases h
      | succ budget =>
        have hnot : (after ++ rest).isEmpty = false := by simp [hrest]
        rw [follow_link_succ hboth, ← List.append_assoc, hnot] at h
        rw [follow_link_succ hwalk]
        exact ih budget (Nat.lt_succ_self budget) h _

/-! ## The last part -/

/-- The parent of a node, if it is a directory. -/
def parent? : Node → Option NodeId
  | .dir _ parent _ => some parent
  | _ => none

/-- The parents of directories are directories. -/
def ParentsAreDirs (s : Store) : Prop :=
  ∀ id ∈ s.nodes.toList.filterMap parent?, s.isDir id = true

instance : Decidable s.ParentsAreDirs :=
  inferInstanceAs (Decidable (∀ id ∈ _, _))

theorem ParentsAreDirs.isDir (h : s.ParentsAreDirs) {es : List (Bytes × NodeId)} {parent : NodeId}
    {linked : Bool} (hnode : s.node? d = some (.dir es parent linked)) : s.isDir parent = true := by
  refine h parent (List.mem_filterMap.2 ⟨.dir es parent linked, ?_, rfl⟩)
  exact Array.mem_toList_iff.2 (Array.mem_of_getElem? hnode)

/-- What a name leads to from a directory is listed there, unless it is a directory. -/
theorem child_listed (hup : name = Path.up → s.ParentsAreDirs)
    (h : s.child d name = .ok (some id)) :
    s.isDir d = true ∧ (s.isDir id = true ∨ name ∈ (s.entries d).map Prod.fst) := by
  rw [child] at h
  split at h
  · next es parent linked hnode =>
    have hdir : s.isDir d = true := by
      rw [Store.isDir, hnode]
    refine ⟨hdir, ?_⟩
    split at h
    · cases h
      exact Or.inl hdir
    · split at h
      next hname =>
        cases h
        exact Or.inl ((hup hname).isDir hnode)
      · split at h
        · cases h
        · split at h
          · cases h
          · right
            obtain ⟨before, after, hes, _⟩ := List.lookup_eq_some_iff.1 (Except.ok.inj h)
            rw [entries, hnode, hes]
            exact List.mem_map.2 ⟨(name, id), List.mem_append_right before List.mem_cons_self, rfl⟩
  · cases h

/-- A last part leads to its node, unless that is a link. -/
theorem child_of_follow {budget : Nat} {slash slash' : Bool}
    (h : s.follow false budget d [name] slash = .ok (.found id, slash')) :
    ∃ j, s.child d name = .ok (some j) ∧ (s.isDir j = true → j = id) := by
  cases hchild : s.child d name with
  | error e =>
    have hwalk : s.walk false d [name] = .error e := walk_cons_error rfl hchild
    rw [follow_error hwalk] at h
    cases h
  | ok next =>
    cases next with
    | none =>
      have hwalk : s.walk false d [name] = .ok (.place (.vacant d name)) :=
        walk_cons_none rfl hchild
      rw [follow_place hwalk] at h
      cases h
    | some j =>
      refine ⟨j, rfl, fun hdir => ?_⟩
      have hnode : ∀ target, s.node? j ≠ some (.link target) := by
        intro target hlink
        rw [Store.isDir, hlink] at hdir
        cases hdir
      have hwalk : s.walk false d [name] = .ok (.place (.found j)) :=
        walk_cons_node rfl hchild hnode
      rw [follow_place hwalk] at h
      cases h
      rfl

/-! ## Files -/

variable {cwd : NodeId} {path : Bytes}

theorem exists_file_of_isRunnable (h : s.isRunnable cwd path = true) :
    ∃ id c m, s.lookup cwd path = .ok id ∧ s.node? id = some (.file c m) := by
  rw [isRunnable] at h
  split at h
  · cases h
  · next id hlookup =>
    split at h
    · next c m hnode => exact ⟨id, c, m, hlookup, hnode⟩
    · cases h

theorem follow_of_lookup (h : s.lookup cwd path = .ok id) :
    Path.parse path = .ok (Path.split path) ∧
      ∃ slash, s.follow false maxLinks (if (Path.split path).absolute then root else cwd)
          (Path.split path).parts (Path.split path).slash = .ok (.found id, slash) ∧
        (slash = true → s.isDir id = true) := by
  rw [lookup, locate] at h
  cases hparse : Path.parse path with
  | error e =>
    rw [hparse] at h
    cases h
  | ok p =>
    rw [hparse] at h
    rw [Path.eq_split_of_parse hparse] at h ⊢
    refine ⟨rfl, ?_⟩
    dsimp only at h
    generalize s.follow false maxLinks (if (Path.split path).absolute then root else cwd)
      (Path.split path).parts (Path.split path).slash = x at h ⊢
    rcases x with e | ⟨⟨j⟩ | _, slash⟩
    · cases h
    · have hdemand : (if slash && !s.isDir j then .error (.errno .notDirectory) else .ok j) =
        (.ok id : Except OsError NodeId) := h
      split at hdemand
      · cases hdemand
      next hdir =>
        cases hdemand
        refine ⟨slash, rfl, fun hslash => ?_⟩
        simpa [hslash] using hdir
    · cases h

theorem namesIn_of_follow {slash : Bool} (hparse : Path.parse path = .ok (Path.split path))
    (h : s.follow false maxLinks (if (Path.split path).absolute then root else cwd)
      (Path.split path).parts (Path.split path).slash = .ok (.found d, slash))
    (hdir : s.isDir d = true) : s.namesIn cwd path = .ok ((s.entries d).map Prod.fst) := by
  have hlocate : s.locate false cwd path = .ok (.found d, slash) := by
    rw [locate, hparse]
    simp only [h]
    rfl
  have hlookup : s.lookup cwd path = .ok d := by
    rw [lookup, hlocate]
    simp only [hdir, Bool.not_true, Bool.and_false, Bool.false_eq_true, if_false]
  rw [namesIn, lookupDir, hlookup]
  simp only [hdir, if_true]
  rfl

/-- A file that may be run is listed in the directory before its name. -/
theorem listed_of_isRunnable {dir : Bytes} (hne : dir ≠ []) (hname : Path.separator ∉ name)
    (hup : name = Path.up → s.ParentsAreDirs)
    (h : s.isRunnable cwd (dir ++ Path.separator :: name) = true) :
    ∃ names, s.namesIn cwd dir = .ok names ∧ name ∈ names := by
  obtain ⟨id, c, m, hlookup, hnode⟩ := exists_file_of_isRunnable h
  have hfile : ¬ s.isDir id = true := by
    rw [Store.isDir, hnode]
    exact Bool.false_ne_true
  obtain ⟨hparse, slash, hfollow, hslash⟩ := follow_of_lookup hlookup
  by_cases hempty : name = []
  · -- The path ends in a separator and demands a directory.
    subst hempty
    have hfalse : slash = false := by simpa using fun htrue => hfile (hslash htrue)
    subst hfalse
    have hdemand := follow_slash hfollow
    simp [Path.split] at hdemand
  · rw [Path.split_below hne hempty hname] at hfollow
    obtain ⟨d, demand, budget, hdir, hlast⟩ :=
      follow_append (List.cons_ne_nil name []) hfollow (Path.split dir).slash
    obtain ⟨j, hchild, hsame⟩ := child_of_follow hlast
    obtain ⟨hisDir, hlisted⟩ := child_listed hup hchild
    refine ⟨_, namesIn_of_follow (Path.parse_of_parse_below hne hparse) hdir hisDir, ?_⟩
    rcases hlisted with hdirectory | hmem
    · exact absurd (hsame hdirectory ▸ hdirectory) hfile
    · exact hmem

end Store

end CommandShell
