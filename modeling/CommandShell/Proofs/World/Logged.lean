import CommandShell.Proofs.Store.Target
import CommandShell.World

/-!
# What the log adds to the files

A record changes no more than the file of the log, to which it adds its line if the logger lets it
through, as far as there is room. `World.logged` says what some records add to each file, and
`log_store` and `logAll_store` that writing records does just that.
-/

namespace CommandShell

namespace Store

theorem Kept.of_not_file {n : Option Node} (h : ∀ c m, n ≠ some (.file c m)) (added : Bytes) :
    Kept added n n := by
  rcases n with _ | ⟨c, m⟩ | ⟨es, up, linked⟩ | target | d
  · exact .none
  · exact absurd rfl (h c m)
  · exact .dir es es up linked
  · exact .link target
  · exact .device d

/-- Writing to a node adds the bytes to it, if it is a file, and keeps all others. -/
theorem keeps_append (s : Store) (id : NodeId) (b : Bytes) (j : NodeId) :
    Keeps s (s.append id b) j (if id = j then b else []) := by
  by_cases hfile : ∃ c m, s.node? id = some (.file c m)
  · obtain ⟨c, m, hnode⟩ := hfile
    rw [append_file hnode]
    by_cases hj : id = j
    · subst hj
      rw [if_pos rfl, Keeps, node?_setNode_self hnode, hnode]
      exact .file c m
    · rw [if_neg hj]
      exact .of_eq (node?_setNode_of_ne (Ne.symm hj) _)
  · have hnot : ∀ c m, s.node? id ≠ some (.file c m) := fun c m hnode => hfile ⟨c, m, hnode⟩
    rw [append_of_not_file hnot]
    by_cases hj : id = j
    · subst hj
      exact Kept.of_not_file hnot _
    · rw [if_neg hj]
      exact .of_eq rfl

end Store

open Store

namespace World

/-! ## Room -/

/-- The part of a payload that a file has room for. -/
def fitting (w : World) (k : Writer) (id : NodeId) (b : Bytes) : Bytes :=
  b.take (w.room k id b)

/-- Every file has room for a payload, whoever writes it. -/
def RoomFor (w : World) (b : Bytes) : Prop :=
  ∀ k id, b.length ≤ w.room k id b

/-- The part of a payload that there is room for is added to a file, and all else stays the same. -/
theorem append_world (w : World) (k : Writer) (id : NodeId) (b : Bytes) :
    (w.append k id b).1 = { w with store := w.store.append id (w.fitting k id b) } := by
  rw [append, capacity]
  split
  · next hnode =>
    -- A full device keeps nothing, whatever it is given.
    have hnot : ∀ c m, w.store.node? id ≠ some (.file c m) := by simp [hnode]
    rw [append_of_not_file hnot, append_of_not_file hnot]
  · rfl

end World

/-- Whether a logger lets a record through. -/
def Logger.admits (l : Logger) (r : LogRecord) : Bool :=
  l.level.allows r.level && l.ceiling.allows r.level

namespace World

/-- What some records add to a file: nothing, unless the file is that of the log, and the part of
each line that there is room for if it is. -/
def logged (w : World) (rs : List LogRecord) (id : NodeId) : Bytes :=
  match w.logger with
  | none => []
  | some l =>
    if l.file = id then
      (rs.filter l.admits).flatMap fun r => w.fitting .shell l.file (Utf8.encode (r.line w.now))
    else []

theorem logged_nil (w : World) (id : NodeId) : w.logged [] id = [] := by
  unfold logged
  split
  · rfl
  · exact ite_self _

theorem logged_append (w : World) (rs rs' : List LogRecord) (id : NodeId) :
    w.logged (rs ++ rs') id = w.logged rs id ++ w.logged rs' id := by
  unfold logged
  cases w.logger with
  | none => rfl
  | some l =>
    by_cases h : l.file = id
    · simp [h]
    · simp [h]

/-- Without a logger nothing is added to any file. -/
theorem logged_of_no_logger {w : World} (h : w.logger = none) (rs : List LogRecord)
    (id : NodeId) : w.logged rs id = [] := by
  rw [logged, h]

theorem logged_of_logger {w : World} {l : Logger} (h : w.logger = some l) (rs : List LogRecord)
    (id : NodeId) :
    w.logged rs id =
      if l.file = id then
        (rs.filter l.admits).flatMap fun r => w.fitting .shell l.file (Utf8.encode (r.line w.now))
      else [] := by
  rw [logged, h]

/-- A record is added to the file of the log, and all else is kept. -/
theorem log_store (w : World) (r : LogRecord) :
    ∃ s, w.log r = { w with store := s } ∧ SameShape w.store s ∧
      ∀ j, Keeps w.store s j (w.logged [r] j) := by
  have unchanged : (∀ j, w.logged [r] j = []) → ∃ s, w = { w with store := s } ∧
      SameShape w.store s ∧ ∀ j, Keeps w.store s j (w.logged [r] j) := by
    intro h
    refine ⟨w.store, rfl, .refl w.store, fun j => ?_⟩
    rw [h j]
    exact .of_eq rfl
  unfold log
  split
  · next hlogger => exact unchanged (logged_of_no_logger hlogger [r])
  · next l hlogger =>
    have hlogged := logged_of_logger hlogger [r]
    split
    · next hadmits =>
      have hrecords : [r].filter l.admits = [r] := by simpa [Logger.admits] using hadmits
      simp only [hrecords, List.flatMap_cons, List.flatMap_nil, List.append_nil] at hlogged
      rw [append_world]
      refine ⟨_, rfl, sameShape_append _ _ _, fun j => ?_⟩
      rw [hlogged j]
      exact keeps_append _ _ _ j
    · next hadmits =>
      have hrecords : [r].filter l.admits = [] := by simpa [Logger.admits] using hadmits
      refine unchanged fun j => ?_
      rw [hlogged j, hrecords, List.flatMap_nil, ite_self]

/-- Writes records in order. -/
def logAll (w : World) (rs : List LogRecord) : World :=
  rs.foldl log w

/-- Records are added to the file of the log, and all else is kept. -/
theorem logAll_store (w : World) (rs : List LogRecord) :
    ∃ s, w.logAll rs = { w with store := s } ∧ SameShape w.store s ∧
      ∀ j, Keeps w.store s j (w.logged rs j) := by
  induction rs generalizing w with
  | nil =>
    refine ⟨w.store, rfl, .refl w.store, fun j => ?_⟩
    rw [logged_nil]
    exact .of_eq rfl
  | cons r rs ih =>
    obtain ⟨s, hlog, hshape, hkeeps⟩ := w.log_store r
    obtain ⟨t, hrest, hshape', hkeeps'⟩ := ih { w with store := s }
    refine ⟨t, ?_, hshape.trans hshape', fun j => ?_⟩
    · rw [logAll, List.foldl_cons, hlog]
      exact hrest
    · rw [← List.singleton_append, logged_append]
      exact (hkeeps j).trans (hkeeps' j)

/-- Some records have been written and nothing else has been done to the files: none has come or
gone, and what they hold is the same but for the records in the log. -/
structure LogsOnly (w : World) (rs : List LogRecord) (w' : World) : Prop where
  shape : SameShape w.store w'.store
  keeps : ∀ id, Keeps w.store w'.store id (w.logged rs id)

theorem LogsOnly.refl (w : World) : w.LogsOnly [] w where
  shape := .refl w.store
  keeps id := by
    rw [logged_nil]
    exact .of_eq rfl

theorem logsOnly_log (w : World) (r : LogRecord) : w.LogsOnly [r] (w.log r) := by
  obtain ⟨s, hlog, hshape, hkeeps⟩ := w.log_store r
  rw [hlog]
  exact ⟨hshape, hkeeps⟩

/-! ## Without a detailed log -/

/-- No record of level `debug` gets into the log. -/
def Quiet (w : World) : Prop :=
  ∀ l, w.logger = some l → (l.level.allows .debug && l.ceiling.allows .debug) = false

theorem Quiet.log_eq_self {w : World} (h : w.Quiet) {r : LogRecord} (hr : r.level = .debug) :
    w.log r = w := by
  unfold log
  split
  · rfl
  · next l hlogger =>
    rw [hr, h l hlogger]
    rfl

theorem Quiet.logged_eq_nil {w : World} (h : w.Quiet) {rs : List LogRecord}
    (hrs : ∀ r ∈ rs, r.level = .debug) (id : NodeId) : w.logged rs id = [] := by
  cases hlogger : w.logger with
  | none => exact logged_of_no_logger hlogger rs id
  | some l =>
    have hnone : rs.filter l.admits = [] := by
      apply List.filter_eq_nil_iff.2
      intro r hr
      rw [Logger.admits, hrs r hr, h l hlogger]
      exact Bool.false_ne_true
    rw [logged_of_logger hlogger, hnone, List.flatMap_nil, ite_self]

end World

end CommandShell
