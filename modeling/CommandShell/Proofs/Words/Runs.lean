import CommandShell.Proofs.Words.Kept

/-!
# Words and runs

The blanks of a line part it into runs of other characters. Each word begins at the beginning of a
run, and quotes may take it over the blanks behind that run, so there are no more words than runs.
What the words hold comes from the line, character by character.

* `runs_append_blank` — a blank parts the runs of what stands before it from those behind it.
* `parted_runs` — a text consists of its runs and the blanks around them.
* `length_le_of_line` — no more words than runs.
* `ofLine_conserved` — what is kept of a line, and in how many words.
* `ofLine_eq_runs` — without quotes and backslashes, the words are the runs.
-/

namespace CommandShell.Words

open Text (isBlank)
open Grammar

/-- The longest pieces of a text without a blank in them, in their order. -/
def runs (cs : List Char) : List (List Char) :=
  (cs.splitOnP isBlank).filter fun run => !run.isEmpty

theorem runs_append_blank {c : Char} (hc : isBlank c = true) (s t : List Char) :
    runs (s ++ c :: t) = runs s ++ runs t := by
  rw [runs, List.splitOnP_append_cons s t hc, List.filter_append]
  rfl

theorem runs_blank {c : Char} (hc : isBlank c = true) (t : List Char) :
    runs (c :: t) = runs t :=
  runs_append_blank hc [] t

/-- A text that does not begin with a blank begins with a run. -/
theorem one_le_length_runs {c : Char} (hc : isBlank c = false) (t : List Char) :
    1 ≤ (runs (c :: t)).length := by
  obtain ⟨run, rest, hsplit⟩ := List.exists_cons_of_ne_nil (List.splitOnP_ne_nil isBlank t)
  have hruns : runs (c :: t) = (c :: run) :: rest.filter fun run => !run.isEmpty := by
    rw [runs, List.splitOnP_cons_eq_if_modifyHead, if_neg (by simp [hc]), hsplit,
      List.modifyHead_cons]
    rfl
  rw [hruns]
  exact Nat.succ_le_succ (Nat.zero_le _)

/-! ## Runs and the blanks around them -/

/-- `Parted s rs`: the text `s` consists of the runs `rs` in their order and of blanks before them,
between them and behind them. A run has no blank in it, and no other character next to it. -/
inductive Parted : List Char → List (List Char) → Prop where
  | nil : Parted [] []
  | blank {c : Char} {s : List Char} {rs : List (List Char)} (hc : isBlank c = true)
      (h : Parted s rs) : Parted (c :: s) rs
  | last {run : List Char} (hne : run ≠ []) (hrun : ∀ c ∈ run, isBlank c = false) :
      Parted run [run]
  | run {run : List Char} {c : Char} {s : List Char} {rs : List (List Char)} (hne : run ≠ [])
      (hrun : ∀ c ∈ run, isBlank c = false) (hc : isBlank c = true) (h : Parted s rs) :
      Parted (run ++ c :: s) (run :: rs)

/-- A text without a blank is one run. -/
theorem runs_eq_singleton {run : List Char} (hne : run ≠ [])
    (hrun : ∀ c ∈ run, isBlank c = false) : runs run = [run] := by
  have hsplit : run.splitOnP isBlank = [run] := by
    apply List.splitOnP_eq_singleton
    intro c hc
    simp [hrun c hc]
  rw [runs, hsplit]
  simp [hne]

theorem parted_runs (s : List Char) : Parted s (runs s) := by
  -- What is left behind a first blank, or behind a first run and its blank, is shorter.
  induction hlen : s.length using Nat.strongRecOn generalizing s with
  | ind n ih =>
    have hsplit : s.takeWhile (fun c => !isBlank c) ++ s.dropWhile (fun c => !isBlank c) = s :=
      List.takeWhile_append_dropWhile
    have hrun : ∀ c ∈ s.takeWhile (fun c => !isBlank c), isBlank c = false := by
      intro c hc
      simpa using List.all_eq_true.1 List.all_takeWhile c hc
    have hhead := List.head?_dropWhile_not (fun c => !isBlank c) s
    generalize s.takeWhile (fun c => !isBlank c) = run at hsplit hrun
    generalize s.dropWhile (fun c => !isBlank c) = rest at hsplit hhead
    subst hsplit
    cases rest with
    | nil =>
      rw [List.append_nil]
      by_cases hne : run = []
      · subst hne
        exact .nil
      · rw [runs_eq_singleton hne hrun]
        exact .last hne hrun
    | cons c t =>
      have hc : isBlank c = true := by simpa using hhead
      have hlt : t.length < n := by
        rw [← hlen, List.length_append, List.length_cons]
        omega
      have ht := ih t.length hlt t rfl
      rw [runs_append_blank hc]
      by_cases hne : run = []
      · subst hne
        exact .blank hc ht
      · rw [runs_eq_singleton hne hrun]
        exact .run hne hrun hc ht

/-! ## Where a word begins -/

/-- A text begins with a character that is no blank. -/
def BeginsRun (s : List Char) : Prop :=
  ∃ c t, s = c :: t ∧ isBlank c = false

theorem BeginsRun.append {s : List Char} (h : BeginsRun s) (t : List Char) :
    BeginsRun (s ++ t) := by
  obtain ⟨c, u, rfl, hc⟩ := h
  exact ⟨c, u ++ t, rfl, hc⟩

theorem BeginsRun.one_le {s : List Char} (h : BeginsRun s) : 1 ≤ (runs s).length := by
  obtain ⟨c, t, rfl, hc⟩ := h
  exact one_le_length_runs hc t

theorem beginsRun_of_segment {s v : List Char} (h : Segment s v) : BeginsRun s := by
  cases h with
  | plain hblank => exact ⟨_, [], rfl, hblank⟩
  | escaped c => exact ⟨'\\', [c], rfl, by decide⟩
  | single => exact ⟨'\'', _, rfl, by decide⟩
  | double => exact ⟨'"', _, rfl, by decide⟩

theorem beginsRun_of_cutSegment {s v : List Char} (h : CutSegment s v) : BeginsRun s := by
  cases h with
  | backslash => exact ⟨'\\', [], rfl, by decide⟩
  | single => exact ⟨'\'', _, rfl, by decide⟩
  | double => exact ⟨'"', _, rfl, by decide⟩

theorem beginsRun_of_word {s v : List Char} (h : Word s v) : BeginsRun s := by
  cases h with
  | segment h => exact beginsRun_of_segment h
  | cons h => exact (beginsRun_of_segment h).append _

theorem beginsRun_of_cutWord {s v : List Char} (h : CutWord s v) : BeginsRun s := by
  cases h with
  | segment h => exact beginsRun_of_cutSegment h
  | cons h => exact (beginsRun_of_segment h).append _

/-! ## What is kept of a line -/

/-- A line holds no more words than runs. -/
theorem length_le_of_line {s : List Char} {ws : List (List Char)} (h : Line s ws) :
    ws.length ≤ (runs s).length := by
  induction h with
  | nil => exact Nat.le_refl 0
  | blank hc _ ih => rwa [runs_blank hc]
  | last h => exact (beginsRun_of_word h).one_le
  | cutLast h => exact (beginsRun_of_cutWord h).one_le
  | word h hc _ ih =>
    -- The word takes one run at least, and the blank behind it ends it.
    have hfirst := (beginsRun_of_word h).one_le
    rw [runs_append_blank hc, List.length_append, List.length_cons]
    omega

/-- The words of a line are a part of its characters in their order, no character that stands for
itself is missing in them or comes on top, and there are no more of them than runs. -/
theorem ofLine_conserved (line : String) :
    (String.join (ofLine line)).toList.Sublist line.toList ∧
      (String.join (ofLine line)).toList.filter isBare = line.toList.filter isBare ∧
      (ofLine line).length ≤ (runs line.toList).length := by
  have hjoin : (String.join (ofLine line)).toList = (ofChars line.toList).flatten := by
    simp [ofLine, String.toList_join, List.flatMap_map, List.flatMap_id']
  refine ⟨?_, ?_, ?_⟩
  · rw [hjoin]
    exact flatten_ofChars_sublist line.toList
  · rw [hjoin, ofChars, Reader.flatten_finish, Reader.filter_kept_run]
    rfl
  · rw [ofLine, List.length_map]
    exact length_le_of_line (line_iff_ofChars_eq.2 rfl)

/-! ## Lines without quotes -/

/-- A text without quotes and backslashes holds its runs as words. -/
theorem line_of_parted {s : List Char} {rs : List (List Char)} (h : Parted s rs)
    (hplain : ∀ c ∈ s, c ≠ '\'' ∧ c ≠ '"' ∧ c ≠ '\\') : Line s rs := by
  have word_run : ∀ {run : List Char}, run ≠ [] → (∀ c ∈ run, isBlank c = false) →
      (∀ c ∈ run, c ≠ '\'' ∧ c ≠ '"' ∧ c ≠ '\\') → Word run run := by
    intro run hne hrun hmeans
    apply word_of_all_isBare hne
    apply List.all_eq_true.2
    intro c hc
    exact isBare_iff.2 ⟨hrun c hc, hmeans c hc⟩
  induction h with
  | nil => exact .nil
  | blank hc _ ih =>
    apply Line.blank hc
    apply ih
    intro c hmem
    exact hplain c (List.mem_cons_of_mem _ hmem)
  | last hne hrun => exact .last (word_run hne hrun hplain)
  | run hne hrun hc _ ih =>
    apply Line.word (word_run hne hrun ?_) hc (ih ?_)
    · intro c hmem
      exact hplain c (List.mem_append_left _ hmem)
    · intro c hmem
      exact hplain c (List.mem_append_right _ (List.mem_cons_of_mem _ hmem))

/-- Without quotes and backslashes, the words of a line are its runs: what a split at the blanks
gives, and what one finds between them. -/
theorem ofLine_eq_runs {line : String}
    (h : ∀ c ∈ line.toList, c ≠ '\'' ∧ c ≠ '"' ∧ c ≠ '\\') :
    ofLine line = (runs line.toList).map String.ofList ∧
      Parted line.toList ((ofLine line).map String.toList) := by
  have hparted := parted_runs line.toList
  have hwords : ofLine line = (runs line.toList).map String.ofList := by
    rw [ofLine, ofChars_eq_of_line (line_of_parted hparted h)]
  refine ⟨hwords, ?_⟩
  rw [hwords, List.map_map]
  simpa [Function.comp_def] using hparted

/-- Blanks of several kinds, at both ends too, and a line end inside the line. -/
theorem ofLine_eq_runs_blanks :
    (∀ c ∈ "\u3000a>b \t\n$x\u2028\x0c".toList, c ≠ '\'' ∧ c ≠ '"' ∧ c ≠ '\\') ∧
      ofLine "\u3000a>b \t\n$x\u2028\x0c" = ["a>b", "$x"] := by
  have hplain : ∀ c ∈ "\u3000a>b \t\n$x\u2028\x0c".toList, c ≠ '\'' ∧ c ≠ '"' ∧ c ≠ '\\' := by
    have hall : ("\u3000a>b \t\n$x\u2028\x0c".toList.all fun c =>
        decide (c ≠ '\'' ∧ c ≠ '"' ∧ c ≠ '\\')) = true := by
      decide
    exact fun c hc => of_decide_eq_true (List.all_eq_true.1 hall c hc)
  have hruns : (runs "\u3000a>b \t\n$x\u2028\x0c".toList).map String.ofList = ["a>b", "$x"] := by
    decide
  exact ⟨hplain, (ofLine_eq_runs hplain).1.trans hruns⟩

/-- Quotes join two runs, and a word stands for nothing. -/
example : ofLine "a\"b c\" ''" = ["ab c", ""] ∧ (runs "a\"b c\" ''".toList).length = 3 := by
  decide

end CommandShell.Words
