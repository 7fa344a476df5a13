import CommandShell.History
import Mathlib.Data.List.Destutter
import Mathlib.Data.List.DropRight

/-!
# What a history holds

A history that has been given some lines, one after the other, holds the latest of them, of equal
neighbours one, up to its limit. To be given what it holds and then more lines makes no difference
to being given all lines at once, as long as it holds anything.

* `latest_append_latest` — what is held already stands for all lines before.
* `Holds.foldl_add` — what a history holds after some lines.
* `changed_foldl_add_iff` — whether one of them has been added.
-/

namespace CommandShell.History

variable {n : Nat} {xs ys : List String} {x y : String}

/-! ## The latest lines -/

/-- The latest lines of a sequence in their order: of equal neighbours one, and of these at most so
many. -/
def latest (n : Nat) (xs : List String) : List String :=
  (xs.destutter (· ≠ ·)).rtake n

theorem destutter'_concat (x y : String) (xs : List String) :
    (xs ++ [y]).destutter' (· ≠ ·) x =
      if (x :: xs).getLast? = some y then xs.destutter' (· ≠ ·) x
      else xs.destutter' (· ≠ ·) x ++ [y] := by
  induction xs generalizing x with
  | nil =>
    by_cases h : x = y
    · simp [h]
    · simp [h]
  | cons z xs ih =>
    rw [List.getLast?_cons_cons]
    by_cases h : x = z
    · -- The line is that before it, which counts on its behalf.
      subst h
      rw [List.cons_append, List.destutter'_cons_neg _ (by simp), ih,
        List.destutter'_cons_neg _ (by simp)]
    · rw [List.cons_append, List.destutter'_cons_pos _ h, ih, List.destutter'_cons_pos _ h]
      split <;> rfl

/-- A line behind others is kept unless it repeats the last one. -/
theorem destutter_concat (xs : List String) (y : String) :
    (xs ++ [y]).destutter (· ≠ ·) =
      if xs.getLast? = some y then xs.destutter (· ≠ ·) else xs.destutter (· ≠ ·) ++ [y] := by
  cases xs with
  | nil => simp
  | cons x xs => exact destutter'_concat x y xs

theorem getLast?_destutter (xs : List String) :
    (xs.destutter (· ≠ ·)).getLast? = xs.getLast? := by
  induction xs using List.reverseRecOn with
  | nil => rfl
  | append_singleton xs y ih =>
    rw [destutter_concat, List.getLast?_concat]
    split
    · next h => rw [ih, h]
    · rw [List.getLast?_concat]

theorem getLast?_rtake (hn : n ≠ 0) (xs : List String) : (xs.rtake n).getLast? = xs.getLast? := by
  cases xs with
  | nil => simp
  | cons x xs =>
    rw [List.rtake, List.getLast?_drop, if_neg]
    simp only [List.length_cons]
    omega

theorem rtake_rtake (m n : Nat) (xs : List String) : (xs.rtake n).rtake m = xs.rtake (min m n) := by
  rw [List.rtake_eq_reverse_take_reverse, List.rtake_eq_reverse_take_reverse,
    List.rtake_eq_reverse_take_reverse, List.reverse_reverse, List.take_take]

theorem getLast?_latest (hn : n ≠ 0) (xs : List String) : (latest n xs).getLast? = xs.getLast? := by
  rw [latest, getLast?_rtake hn, getLast?_destutter]

theorem latest_zero (xs : List String) : latest 0 xs = [] :=
  List.rtake_zero _

theorem mem_of_mem_latest (h : x ∈ latest n xs) : x ∈ xs :=
  (List.destutter_sublist _ xs).subset (List.mem_of_mem_drop h)

/-- What one more line does. -/
theorem latest_concat (hn : n ≠ 0) (xs : List String) (y : String) :
    latest n (xs ++ [y]) =
      if (latest n xs).getLast? = some y then latest n xs else (latest n xs ++ [y]).rtake n := by
  rw [getLast?_latest hn, latest, destutter_concat]
  split
  · rfl
  · obtain ⟨m, rfl⟩ := Nat.exists_eq_succ_of_ne_zero hn
    rw [latest, List.rtake_concat_succ, List.rtake_concat_succ, rtake_rtake,
      Nat.min_eq_left (Nat.le_succ m)]

theorem latest_latest (n : Nat) (xs : List String) : latest n (latest n xs) = latest n xs := by
  have hchain : (latest n xs).IsChain (· ≠ ·) := (List.isChain_destutter _ xs).drop _
  rw [latest, List.destutter_of_isChain _ _ hchain, latest, rtake_rtake, Nat.min_self]

/-- What is held already stands for all lines before. -/
theorem latest_append_latest (hn : n ≠ 0) (xs ys : List String) :
    latest n (latest n xs ++ ys) = latest n (xs ++ ys) := by
  induction ys using List.reverseRecOn with
  | nil => rw [List.append_nil, List.append_nil, latest_latest]
  | append_singleton ys y ih =>
    rw [← List.append_assoc, ← List.append_assoc, latest_concat hn, latest_concat hn, ih]

/-- Lines that repeat the last one add nothing. -/
theorem latest_append_repeated (hn : n ≠ 0) (h : ∀ y ∈ ys, xs.getLast? = some y) :
    latest n (xs ++ ys) = latest n xs := by
  induction ys using List.reverseRecOn with
  | nil => rw [List.append_nil]
  | append_singleton ys y ih =>
    have hys := ih fun z hz => h z (List.mem_append_left _ hz)
    have hy : xs.getLast? = some y := h y (List.mem_append_right _ List.mem_cons_self)
    rw [← List.append_assoc, latest_concat hn, hys, getLast?_latest hn, if_pos hy]

/-! ## Histories -/

/-- A history with a limit has been given some lines. -/
structure Holds (h : History) (n : Nat) (xs : List String) : Prop where
  limit : h.limit = n
  added : h.added.reverse = if n = 0 then [] else xs.destutter (· ≠ ·)

variable {h : History}

theorem holds_empty (n : Nat) (changed : Bool) : Holds ⟨[], n, changed⟩ n [] :=
  ⟨rfl, by simp⟩

/-- What the history holds are the latest lines that it has been given. -/
theorem Holds.entries (hh : h.Holds n xs) : h.entries.reverse = latest n xs := by
  have htake : h.entries.reverse = h.added.reverse.rtake n := by
    rw [History.entries, hh.limit, List.rtake_eq_reverse_take_reverse, List.reverse_reverse]
  rw [htake, hh.added]
  split
  · next hn =>
    subst hn
    rw [latest_zero, List.rtake_zero]
  · rfl

theorem Holds.ignores_iff (hh : h.Holds n xs) (hx : x ≠ "") :
    h.ignores x = true ↔ n = 0 ∨ xs.getLast? = some x := by
  have hempty : x.isEmpty = false := by simpa using hx
  simp only [ignores, hh.limit, hempty, Bool.or_false, Bool.or_eq_true, decide_eq_true_eq]
  by_cases hn : n = 0
  · simp [hn]
  · have hadded := hh.added
    rw [if_neg hn] at hadded
    rw [← getLast?_destutter xs, ← hadded, List.getLast?_reverse]

theorem Holds.add (hh : h.Holds n xs) (hx : x ≠ "") : (h.add x).Holds n (xs ++ [x]) := by
  rw [History.add]
  split
  · next hignores =>
    refine ⟨hh.limit, ?_⟩
    rw [hh.added]
    rcases (hh.ignores_iff hx).1 hignores with hn | hlast
    · rw [if_pos hn, if_pos hn]
    · rw [destutter_concat, if_pos hlast]
  · next hignores =>
    rw [hh.ignores_iff hx, not_or] at hignores
    refine ⟨hh.limit, ?_⟩
    have hadded := hh.added
    rw [if_neg hignores.1] at hadded ⊢
    rw [List.reverse_cons, hadded, destutter_concat, if_neg hignores.2]

theorem Holds.foldl_add (hh : h.Holds n xs) (hys : ∀ y ∈ ys, y ≠ "") :
    (ys.foldl History.add h).Holds n (xs ++ ys) := by
  induction ys generalizing h xs with
  | nil => rwa [List.append_nil]
  | cons y ys ih =>
    rw [List.append_cons]
    exact ih (hh.add (hys y List.mem_cons_self)) fun z hz => hys z (List.mem_cons_of_mem y hz)

theorem changed_add (h : History) (x : String) :
    (h.add x).changed = (h.changed || !h.ignores x) := by
  rw [History.add]
  split
  · next hignores => simp [hignores]
  · next hignores => simp [hignores]

/-- A line is added unless all repeat the last one. -/
theorem Holds.changed_foldl_add_iff (hh : h.Holds n xs) (hys : ∀ y ∈ ys, y ≠ "") :
    (ys.foldl History.add h).changed = true ↔
      h.changed = true ∨ n ≠ 0 ∧ ∃ y ∈ ys, xs.getLast? ≠ some y := by
  induction ys generalizing h xs with
  | nil => simp
  | cons y ys ih =>
    have hy : y ≠ "" := hys y List.mem_cons_self
    have hrest := ih (hh.add hy) fun z hz => hys z (List.mem_cons_of_mem y hz)
    have hignores := hh.ignores_iff hy
    rw [List.foldl_cons, hrest, changed_add, List.getLast?_concat, Bool.or_eq_true,
      Bool.not_eq_true', ← Bool.not_eq_true, hignores]
    by_cases hn : n = 0
    · simp [hn]
    · by_cases hlast : xs.getLast? = some y
      · simp [hn, hlast]
      · simp [hn, hlast]

end CommandShell.History
