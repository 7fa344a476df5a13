import CommandShell.External
import CommandShell.Proofs.Store.Shape

/-!
# Starting the first of several paths

Whether a path leads to a file that may be run is a question of its own, which is answered without
starting anything. A search that starts what it can and passes over the rest stops at the first path
for which the answer is yes.

* `path_of_start` — a program is started under the path that was asked for.
* `start_of_not_runnable` — a path without a file that may be run is refused.
* `startFirst_eq_find?` — a search stops at the first file that may be run.
-/

namespace CommandShell.Store

variable {s t : Store} {cwd : NodeId} {path : Bytes} {fits : Bool}

/-- What a file holds makes no difference to whether it may be run. -/
theorem isRunnable_of_sameShape (h : SameShape s t) (cwd : NodeId) (path : Bytes) :
    t.isRunnable cwd path = s.isRunnable cwd path := by
  rw [isRunnable, isRunnable, lookup_of_sameShape h]
  cases s.lookup cwd path with
  | error e => rfl
  | ok id =>
    rcases h id with heq | ⟨c, c', m, hs, ht⟩
    · simp only [heq]
    · simp only [hs, ht]

theorem exists_of_map_eq_ok {ε α β : Type} {f : α → β} {x : Except ε α} {b : β}
    (h : x.map f = .ok b) : ∃ a, f a = b := by
  cases x with
  | error e => cases h
  | ok a => exact ⟨a, by cases h; rfl⟩

/-- A program is started under the path that was asked for. -/
theorem path_of_start {budget : Nat} {found : Started}
    (h : s.start cwd fits budget path = .ok found) : found.path = path := by
  unfold start at h
  split at h
  · cases h
  · split at h
    · split at h
      · cases h
      · split at h
        · cases h
        · split at h
          · cases h
          · cases h
          · cases h
            rfl
          · split at h
            · cases h
            · split at h
              · cases h
              · obtain ⟨_, rfl⟩ := exists_of_map_eq_ok h
                rfl
    · cases h

/-- A path without a file that may be run is refused, for the reason that nothing can be found there
or else for want of permission. -/
theorem start_of_not_runnable (h : s.isRunnable cwd path = false) (budget : Nat) :
    (∃ e, s.lookup cwd path = .error e ∧ s.start cwd fits budget path = .error e) ∨
      s.start cwd fits budget path = .error (.errno .accessDenied) := by
  cases hlookup : s.lookup cwd path with
  | error e =>
    refine Or.inl ⟨e, rfl, ?_⟩
    unfold start
    rw [hlookup]
  | ok id =>
    refine Or.inr ?_
    rw [isRunnable, hlookup] at h
    unfold start
    simp only [hlookup]
    split
    · next c m hnode =>
      simp only [hnode] at h
      simp [h]
    · rfl

/-- The failures after which a search goes on. -/
def passedOver : List Errno := [.accessDenied, .noEntry, .notDirectory]

/-- A search can start all that may be run and passes over the rest, for reasons of some kind. -/
structure Searchable (s : Store) (cwd : NodeId) (fits : Bool) (reason : Errno → Prop)
    (paths : List Bytes) : Prop where
  starts : ∀ path ∈ paths, s.isRunnable cwd path = true →
    ∃ found, s.start cwd fits maxOpened path = .ok found
  passes : ∀ path ∈ paths, s.isRunnable cwd path = false →
    ∃ e, reason e ∧ s.start cwd fits maxOpened path = .error (.errno e)

variable {reason : Errno → Prop} {failure : Errno} {paths : List Bytes}

theorem Searchable.tail {rest : List Bytes} (h : s.Searchable cwd fits reason (path :: rest)) :
    s.Searchable cwd fits reason rest :=
  ⟨fun p hp => h.starts p (List.mem_cons_of_mem path hp),
    fun p hp => h.passes p (List.mem_cons_of_mem path hp)⟩

/-- After a path that is passed over, the search goes on with one of the failures met so far. -/
theorem startFirst_passed {e : Errno} (he : e ∈ passedOver)
    (h : s.start cwd fits maxOpened path = .error (.errno e)) (hfailure : reason failure)
    (hreason : reason e) (rest : List Bytes) :
    ∃ later, reason later ∧
      s.startFirst cwd fits failure (path :: rest) = s.startFirst cwd fits later rest := by
  have hunless : reason (failure.unlessRefused e) := by
    unfold Errno.unlessRefused
    split
    · exact hfailure
    · exact hreason
  simp only [passedOver, List.mem_cons, List.not_mem_nil, or_false] at he
  rcases he with rfl | rfl | rfl
  · exact ⟨.accessDenied, hreason, by rw [startFirst, h]⟩
  · exact ⟨_, hunless, by rw [startFirst, h]⟩
  · exact ⟨_, hunless, by rw [startFirst, h]⟩

/-- A search stops at the first file that may be run. If there is none, it reports one of the
failures that it has met. -/
theorem startFirst_eq_find? (hreason : ∀ e, reason e → e ∈ passedOver) (hfailure : reason failure)
    (h : s.Searchable cwd fits reason paths) :
    match paths.find? (s.isRunnable cwd) with
    | some path => ∃ found, s.startFirst cwd fits failure paths = .ok found ∧ found.path = path
    | none => ∃ e, reason e ∧ s.startFirst cwd fits failure paths = .error (.errno e) := by
  induction paths generalizing failure with
  | nil => exact ⟨failure, hfailure, rfl⟩
  | cons path rest ih =>
    cases hrun : s.isRunnable cwd path with
    | true =>
      obtain ⟨found, hstart⟩ := h.starts path List.mem_cons_self hrun
      rw [List.find?_cons_of_pos hrun]
      exact ⟨found, by rw [startFirst, hstart], path_of_start hstart⟩
    | false =>
      obtain ⟨e, he, hstart⟩ := h.passes path List.mem_cons_self hrun
      obtain ⟨later, hlater, hnext⟩ := startFirst_passed (hreason e he) hstart hfailure he rest
      rw [List.find?_cons_of_neg (by simp [hrun]), hnext]
      exact ih hlater h.tail

end CommandShell.Store
