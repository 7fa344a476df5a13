import CommandShell.Proofs.Text.Delimited
import CommandShell.Proofs.Words.Continued

/-!
# The written form of words

Of all the lines that are read as some words, `toLine` writes one. What stands at a word boundary of
such a line is the written form of the words that follow, so one can tell what may stand there: a
plain character or a quote, and nothing else.

* `exists_toLine_of_append` — what follows a written line and a space in a written line is one.
* `exists_toLine_of_plain` — so is what follows a plain word and a space at its beginning.
* `head_toLine` — how a written line begins.
-/

namespace CommandShell.Words

open Text (isBlank)

variable {ws vs : List String} {w : String} {c : Char} {p rest : List Char}

theorem toList_toLine_cons (w : String) (ws : List String) :
    (toLine (w :: ws)).toList =
      quoteChars w.toList ++ if ws = [] then [] else ' ' :: (toLine ws).toList := by
  cases ws with
  | nil => simp [toLine, quote]
  | cons v ws => simp [toLine, quote, String.intercalate_cons_cons]

/-- Words are written behind others with a space between. -/
theorem toLine_append (hws : ws ≠ []) (hvs : vs ≠ []) :
    (toLine (ws ++ vs)).toList = (toLine ws).toList ++ ' ' :: (toLine vs).toList := by
  have hws' : ws.map quote ≠ [] := by simpa using hws
  have hvs' : vs.map quote ≠ [] := by simpa using hvs
  rw [toLine, List.map_append, String.intercalate_append_of_ne_nil hws' hvs']
  simp [toLine]

/-- A written line ends outside quotes. -/
theorem free_run_toLine (ws : List String) : (Reader.run {} (toLine ws).toList).Free := by
  -- The finished words grow along the line, so the claim is for any of them.
  suffices h : ∀ d, ((Reader.outside d none).run (toLine ws).toList).Free from h []
  induction ws with
  | nil =>
    intro d
    exact ⟨rfl, rfl⟩
  | cons w ws ih =>
    intro d
    rw [toList_toLine_cons, Reader.run_append, run_word (word_quoteChars w.toList)]
    split
    · exact ⟨rfl, rfl⟩
    · rw [Reader.run_cons, Reader.step_outside_blank d _ Text.isBlank_space]
      exact ih _

/-! ## How a written line begins -/

/-- A quoted word begins with a quote unless all its characters are plain. -/
theorem quoteChars_cases (w : List Char) :
    (w ≠ [] ∧ w.all isPlain = true ∧ quoteChars w = w) ∨ ∃ t, quoteChars w = '\'' :: t := by
  unfold quoteChars
  split
  · next h =>
    rw [Bool.and_eq_true] at h
    exact Or.inl ⟨by simpa using h.1, h.2, rfl⟩
  · exact Or.inr ⟨_, rfl⟩

/-- A written line begins with a plain character or with a quote. -/
theorem head_toLine (h : (toLine ws).toList = c :: rest) : isPlain c = true ∨ c = '\'' := by
  cases ws with
  | nil => cases h
  | cons w ws =>
    rw [toList_toLine_cons] at h
    rcases quoteChars_cases w.toList with ⟨hne, hplain, hquote⟩ | ⟨t, hquote⟩
    · obtain ⟨d, t, hw⟩ := List.exists_cons_of_ne_nil hne
      rw [hquote, hw, List.cons_append] at h
      obtain ⟨rfl, _⟩ := List.cons.inj h
      rw [hw, List.all_cons, Bool.and_eq_true] at hplain
      exact Or.inl hplain.1
    · rw [hquote, List.cons_append] at h
      exact Or.inr (List.cons.inj h).1.symm

/-- If a written line begins with a plain word, this is its first word, and the others follow. -/
theorem exists_toLine_of_plain (hp : p ≠ []) (hplain : p.all isPlain = true)
    (h : (toLine ws).toList = p ++ ' ' :: rest) : ∃ vs, (toLine vs).toList = rest := by
  have space_not_mem : ∀ {q : List Char}, q.all isPlain = true → ' ' ∉ q := by
    intro q hq hmem
    have hspace : isPlain ' ' = false := by decide
    rw [List.all_eq_true.1 hq ' ' hmem] at hspace
    cases hspace
  cases ws with
  | nil =>
    have hlength := congrArg List.length h
    simp [toLine] at hlength
  | cons w ws =>
    rw [toList_toLine_cons] at h
    rcases quoteChars_cases w.toList with ⟨_, hw, hquote⟩ | ⟨t, hquote⟩
    · rw [hquote] at h
      split at h
      · -- The line is this one word, and there is no space in it.
        rw [List.append_nil] at h
        have hmem : ' ' ∈ w.toList := by simp [h]
        exact absurd hmem (space_not_mem hw)
      · exact ⟨ws, (Text.append_mark_inj (space_not_mem hw) (space_not_mem hplain) h).2⟩
    · obtain ⟨d, q, rfl⟩ := List.exists_cons_of_ne_nil hp
      rw [hquote, List.cons_append, List.cons_append] at h
      obtain ⟨rfl, _⟩ := List.cons.inj h
      rw [List.all_cons, Bool.and_eq_true] at hplain
      exact absurd hplain.1 (by decide)

/-! ## What follows in a written line -/

/-- What follows a written line and a space in a written line is a written line. -/
theorem exists_toLine_of_append (h : (toLine vs).toList = (toLine ws).toList ++ ' ' :: rest) :
    ∃ us, (toLine us).toList = rest := by
  have hwords : vs = ws ++ ofLine (String.ofList rest) := by
    have hchars := ofChars_append_blank (b := rest) Text.isBlank_space (free_run_toLine ws)
    calc vs = ofLine (toLine vs) := (ofLine_toLine vs).symm
      _ = ofLine (toLine ws) ++ ofLine (String.ofList rest) := by
        rw [ofLine, h, hchars, List.map_append, ofLine, ofLine, String.toList_ofList]
      _ = ws ++ ofLine (String.ofList rest) := by rw [ofLine_toLine]
  by_cases hws : ws = []
  · -- No written line begins with a space.
    subst hws
    rcases head_toLine h with hplain | hquote
    · exact absurd hplain (by decide)
    · exact absurd hquote (by decide)
  · have hne : ofLine (String.ofList rest) ≠ [] := by
      intro hnil
      rw [hnil, List.append_nil] at hwords
      have hlength := congrArg List.length h
      rw [hwords, List.length_append, List.length_cons] at hlength
      omega
    rw [hwords, toLine_append hws hne] at h
    exact ⟨_, (List.cons.inj (List.append_cancel_left h)).2⟩

end CommandShell.Words
