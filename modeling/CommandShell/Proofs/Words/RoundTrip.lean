import CommandShell.Proofs.Words.Reading
import CommandShell.Words.Quoted

/-!
# Quoting and reading

A quoted word is a word of the grammar, so the reader needs no second look: it reads a quoted word
as it reads any word, in any surroundings. Words quoted side by side are one word, and blanks part
them.

* `word_quoteChars` — the written form of a word is a word that stands for it.
* `ofLine_toLine` — a list of words written as a line is read back.
* `ofLine_of_spaced` — the same for groups of words with any blanks between the groups.
-/

namespace CommandShell.Words

open Text (isBlank allBlank)
open Grammar

/-! ## A quoted word is a word -/

theorem isBlank_eq_false_of_isPlain {c : Char} (h : isPlain c = true) : isBlank c = false := by
  rw [isPlain, Bool.or_eq_true] at h
  rcases h with halnum | hpunct
  · have hrange : 48 ≤ c.toNat ∧ c.toNat ≤ 57 ∨ 65 ≤ c.toNat ∧ c.toNat ≤ 90 ∨
        97 ≤ c.toNat ∧ c.toNat ≤ 122 := by
      have hcases : (decide (65 ≤ c.val ∧ c.val ≤ 90) ||
          (decide (97 ≤ c.val) && decide (c.val ≤ 122)) ||
          (decide (48 ≤ c.val) && decide (c.val ≤ 57))) = true := halnum
      simp only [Bool.or_eq_true, Bool.and_eq_true, decide_eq_true_eq,
        UInt32.le_iff_toNat_le] at hcases
      change (((65 ≤ c.toNat ∧ c.toNat ≤ 90) ∨ 97 ≤ c.toNat ∧ c.toNat ≤ 122) ∨
        48 ≤ c.toNat ∧ c.toNat ≤ 57) at hcases
      omega
    simp only [isBlank, Text.inRanges, Text.blankRanges, List.any_cons, List.any_nil,
      Bool.or_false, Bool.or_eq_false_iff, Bool.and_eq_false_iff, decide_eq_false_iff_not]
    omega
  · have hall : plainPunctuation.all (fun c => !isBlank c) = true := by decide
    simpa using List.all_eq_true.1 hall c (by simpa using hpunct)

/-- No plain character has a meaning to the reader. -/
theorem segment_of_isPlain {c : Char} (h : isPlain c = true) : Segment [c] [c] := by
  have hne : ∀ x : Char, isPlain x = false → c ≠ x := by
    rintro x hx rfl
    rw [h] at hx
    exact Bool.noConfusion hx
  exact .plain (isBlank_eq_false_of_isPlain h) (hne '\'' (by decide)) (hne '"' (by decide))
    (hne '\\' (by decide))

/-- Characters without a meaning make a word that stands for itself. -/
theorem word_of_segments {w : List Char} (hne : w ≠ []) (h : ∀ c ∈ w, Segment [c] [c]) :
    Word w w := by
  induction w with
  | nil => exact absurd rfl hne
  | cons c t ih =>
    have hc : Segment [c] [c] := h c (by simp)
    cases t with
    | nil => exact .segment hc
    | cons d t => exact .cons hc (ih (by simp) fun x hx => h x (List.mem_cons_of_mem c hx))

theorem word_of_all_isPlain {w : List Char} (hne : w ≠ []) (h : w.all isPlain = true) :
    Word w w :=
  word_of_segments hne fun c hc => segment_of_isPlain (List.all_eq_true.1 h c hc)

/-- Characters written inside single quotes, behind others that hold no quote. -/
theorem word_single_flatMap_quoteChar (p w : List Char) (hp : '\'' ∉ p) :
    Word ('\'' :: p ++ w.flatMap quoteChar ++ ['\'']) (p ++ w) := by
  -- The characters since the quotes were opened last are gathered in `p`.
  induction w generalizing p with
  | nil => simpa using Word.segment (Segment.single hp)
  | cons c t ih =>
    by_cases hc : c = '\''
    · -- The quotes are closed, a quote is escaped, and they are opened again.
      subst hc
      have hquote := Word.cons (.escaped '\'') (ih [] (by simp))
      simpa [quoteChar] using Word.cons (.single hp) hquote
    · have hp' : '\'' ∉ p ++ [c] := by simp [hp, Ne.symm hc]
      simpa [quoteChar, hc] using ih (p ++ [c]) hp'

/-- The written form of a word is a word that stands for it. -/
theorem word_quoteChars (w : List Char) : Word (quoteChars w) w := by
  unfold quoteChars
  split
  · next h =>
    rw [Bool.and_eq_true] at h
    exact word_of_all_isPlain (by simpa using h.1) h.2
  · exact word_single_flatMap_quoteChar [] w (by simp)

theorem word_quote (w : String) : Word (quote w).toList w.toList := by
  rw [quote, String.toList_ofList]
  exact word_quoteChars w.toList

/-- Words written side by side are one word. -/
theorem word_join_quote {g : List String} (hne : g ≠ []) :
    Word (String.join (g.map quote)).toList (String.join g).toList := by
  induction g with
  | nil => exact absurd rfl hne
  | cons w g ih =>
    cases g with
    | nil => simpa using word_quote w
    | cons v g => simpa using (word_quote w).append (ih (by simp))

/-! ## Pieces parted by blanks -/

/-- `Spaced ps line`: the line consists of the pieces `ps` in their order, with at least one blank
between two of them. -/
inductive Spaced : List String → String → Prop where
  | nil : Spaced [] ""
  | single (p : String) : Spaced [p] p
  | cons {p q line : String} {ps : List String} (gap : String) (hne : gap ≠ "")
      (hblank : allBlank gap = true) (h : Spaced (q :: ps) line) :
      Spaced (p :: q :: ps) (p ++ gap ++ line)

theorem spaced_intercalate (ps : List String) : Spaced ps (" ".intercalate ps) := by
  induction ps with
  | nil => exact .nil
  | cons p ps ih =>
    cases ps with
    | nil => exact .single p
    | cons q ps =>
      rw [String.intercalate_cons_cons]
      exact .cons " " (by decide) (by decide) ih

/-- Pieces that are words make a line of these words. -/
theorem line_of_spaced {α : Type} (written meant : α → String) {xs : List α} {line : String}
    (hword : ∀ x ∈ xs, Word (written x).toList (meant x).toList)
    (h : Spaced (xs.map written) line) :
    Line line.toList ((xs.map meant).map String.toList) := by
  induction xs generalizing line with
  | nil =>
    cases h
    exact .nil
  | cons x xs ih =>
    have hx := hword x (by simp)
    cases xs with
    | nil =>
      cases h
      exact .last hx
    | cons y ys =>
      cases h with
      | cons gap hne hblank hrest =>
        have hline := ih (fun z hz => hword z (by simp [hz])) hrest
        -- The first blank of the gap ends the word and the others come before the next one.
        cases hgap : gap.toList with
        | nil => exact absurd (String.toList_eq_nil_iff.1 hgap) hne
        | cons c cs =>
          rw [allBlank, hgap, List.all_cons, Bool.and_eq_true] at hblank
          simpa [hgap] using Line.word hx hblank.1 (.blanks hblank.2 hline)

/-- Words with one space between two of them are read as what they stand for. -/
theorem ofLine_intercalate {α : Type} (written meant : α → String) (xs : List α)
    (hword : ∀ x ∈ xs, Word (written x).toList (meant x).toList) :
    ofLine (" ".intercalate (xs.map written)) = xs.map meant :=
  ofLine_eq_of_line (line_of_spaced written meant hword (spaced_intercalate (xs.map written)))

/-- A list of words written as a line is read back. -/
theorem ofLine_toLine (ws : List String) : ofLine (toLine ws) = ws := by
  have hread := ofLine_intercalate quote id ws fun w _ => word_quote w
  rwa [List.map_id] at hread

/-- Reading undoes quoting: groups of quoted words, with nothing between the words of a group and
any blanks between two groups, are read as one word for each group. In particular a list of words
written as a line is read back. -/
theorem ofLine_of_spaced :
    (∀ (groups : List (List String)) (line : String), (∀ g ∈ groups, g ≠ []) →
      Spaced (groups.map fun g => String.join (g.map quote)) line →
      ofLine line = groups.map String.join) ∧
    ∀ ws : List String, ofLine (toLine ws) = ws := by
  refine ⟨?_, ofLine_toLine⟩
  intro groups line hne h
  exact ofLine_eq_of_line (line_of_spaced _ String.join (fun g hg => word_join_quote (hne g hg)) h)

/-- Quotes that touch, empty words, and gaps of several blanks. -/
theorem ofLine_of_spaced_touching :
    (∀ g ∈ [["it's", "'", ""], ["a b", ">\\"], ["", ""]], g ≠ []) ∧
    ofLine "'it'\\''s'''\\'''''\t\n'a b''>\\' \u3000''''" = ["it's'", "a b>\\", ""] := by
  refine ⟨by simp, ?_⟩
  have hspaced : Spaced ([["it's", "'", ""], ["a b", ">\\"], ["", ""]].map fun g =>
      String.join (g.map quote)) "'it'\\''s'''\\'''''\t\n'a b''>\\' \u3000''''" :=
    .cons "\t\n" (by decide) (by decide) (.cons " \u3000" (by decide) (by decide) (.single _))
  exact ofLine_of_spaced.1 _ _ (by simp) hspaced

end CommandShell.Words
