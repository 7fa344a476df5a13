import CommandShell.Proofs.Words.Kept
import Mathlib.Data.List.Basic

/-!
# Lines that go on

What has been read of a line stays read when the line goes on: finished words are kept, and the last
one may get more characters. Only a backslash in double quotes is not settled until the next
character is known. Where a word could end, a blank parts the line into two that are read for
themselves.

* `Reader.settled_run` — between two words nothing is left open.
* `Reader.grows_run` — the words that have been read grow and do not change.
* `ofChars_append_blank` — a line in two parts.
* `ofLine_append` — what the words of a longer line have to do with those of its beginning.
-/

namespace CommandShell.Words

open Text (isBlank)

/-! ## Words that grow -/

/-- The words `ws'` are the words `ws` with more characters in the last one and more words behind
it. -/
def Grows (ws ws' : List (List Char)) : Prop :=
  ws = [] ∨ ∃ front w more rest, ws = front ++ [w] ∧ ws' = front ++ (w ++ more) :: rest

theorem grows_append (ws rest : List (List Char)) : Grows ws (ws ++ rest) := by
  rcases List.eq_nil_or_concat' ws with rfl | ⟨front, w, rfl⟩
  · exact Or.inl rfl
  · exact Or.inr ⟨front, w, [], rest, rfl, by simp⟩

theorem Grows.refl (ws : List (List Char)) : Grows ws ws := by
  simpa using grows_append ws []

theorem Grows.trans {ws ws' ws'' : List (List Char)} (h : Grows ws ws') (h' : Grows ws' ws'') :
    Grows ws ws'' := by
  rcases h with rfl | ⟨front, w, more, rest, rfl, rfl⟩
  · exact Or.inl rfl
  · refine Or.inr ⟨front, w, ?_⟩
    rcases h' with hnil | ⟨front', w', more', rest', hsplit, rfl⟩
    · simp at hnil
    · -- The last word grows again, or it is followed by another one that does.
      rcases List.eq_nil_or_concat' rest with rfl | ⟨rest, last, rfl⟩
      · obtain ⟨rfl, hw⟩ := List.append_inj' hsplit rfl
        obtain rfl := List.singleton_inj.1 hw
        exact ⟨more ++ more', rest', rfl, by rw [List.append_assoc]⟩
      · rw [← List.cons_append, ← List.append_assoc] at hsplit
        obtain ⟨rfl, hw⟩ := List.append_inj' hsplit rfl
        exact ⟨more, rest ++ (w' ++ more') :: rest', rfl, by simp⟩

namespace Reader

/-- The words read so far, with the one that is being read. -/
def words (r : Reader) : List (List Char) :=
  r.done.reverse ++ (r.word.map List.reverse).toList

/-- The reader stands in double quotes behind a backslash that is not the second half of an
escape. -/
def Waits (r : Reader) : Prop :=
  r.quoting = .double ∧ r.escaping = true

instance (r : Reader) : Decidable r.Waits :=
  inferInstanceAs (Decidable (_ ∧ _))

theorem waiting_of_waits {r : Reader} (h : r.Waits) : r.waiting = ['\\'] :=
  if_pos h

theorem waiting_of_not_waits {r : Reader} (h : ¬ r.Waits) : r.waiting = [] :=
  if_neg h

variable (r : Reader) (c : Char)

theorem words_endWord : r.endWord.words = r.words := by
  obtain ⟨d, o, q, swallow, escaping⟩ := r
  cases o <;> simp [words, endWord]

theorem done_endWord : r.endWord.done.reverse = r.words := by
  obtain ⟨d, o, q, swallow, escaping⟩ := r
  cases o <;> simp [words, endWord]

theorem finish_of_waits (h : r.Waits) : r.finish = (r.push '\\').words := by
  rw [finish, ← done_endWord]
  simp [h.1, h.2]

theorem finish_of_not_waits (h : ¬ r.Waits) : r.finish = r.words := by
  have hnot : (decide (r.quoting = .double) && r.escaping) = false := by
    rw [Bool.eq_false_iff, ne_eq, Bool.and_eq_true, decide_eq_true_eq]
    exact h
  rw [finish, ← done_endWord]
  simp only [hnot, Bool.false_eq_true, if_false]

theorem grows_push : Grows r.words (r.push c).words := by
  cases hword : r.word with
  | none =>
    have hpush : (r.push c).words = r.words ++ [[c]] := by simp [words, push, hword]
    rw [hpush]
    exact grows_append _ _
  | some w =>
    exact Or.inr ⟨r.done.reverse, w.reverse, [c], [], by simp [words, hword],
      by simp [words, push, hword]⟩

theorem grows_begin : Grows r.words r.begin.words := by
  cases hword : r.word with
  | none =>
    have hbegin : r.begin.words = r.words ++ [[]] := by simp [words, begin, hword]
    rw [hbegin]
    exact grows_append _ _
  | some w =>
    have hbegin : r.begin.words = r.words := by simp [words, begin, hword]
    rw [hbegin]
    exact .refl _

theorem grows_stepBare : Grows r.words (r.stepBare c).words := by
  unfold stepBare
  split
  · rw [words_endWord]
    exact .refl _
  · split
    · exact r.grows_begin
    · split
      · exact r.grows_begin
      · split
        · exact r.grows_begin
        · exact r.grows_push c

theorem grows_stepDouble : Grows r.words (r.stepDouble c).words := by
  unfold stepDouble
  split
  · exact .refl _
  · split
    · split <;> exact .refl _
    · exact r.grows_push c

/-- Whatever comes next, the words read so far grow and do not change. -/
theorem grows_step : Grows r.words (r.step c).words := by
  unfold step
  split
  · exact r.grows_push c
  · exact r.grows_stepBare c
  · split
    · exact .refl _
    · exact r.grows_push c
  · split
    · exact r.grows_push c
    · exact (r.grows_push '\\').trans ((r.push '\\').grows_push c)
  · exact r.grows_stepDouble c

theorem grows_run (cs : List Char) : Grows r.words (r.run cs).words := by
  induction cs generalizing r with
  | nil => exact .refl _
  | cons c cs ih => exact (r.grows_step c).trans (ih _)

theorem grows_finish : Grows r.words r.finish := by
  by_cases h : r.Waits
  · rw [r.finish_of_waits h]
    exact r.grows_push '\\'
  · rw [r.finish_of_not_waits h]
    exact .refl _

/-! ## Between two words -/

variable {r c}

/-- Any character but a blank begins a word or belongs to one. -/
theorem exists_word_stepBare (hc : isBlank c = false) : ∃ v, (r.stepBare c).word = some v := by
  unfold stepBare
  split
  · next hblank => exact absurd hblank (by simp [hc])
  · split
    · exact ⟨_, rfl⟩
    · split
      · exact ⟨_, rfl⟩
      · split
        · exact ⟨_, rfl⟩
        · exact ⟨_, rfl⟩

/-- A word goes on, or a blank outside quotes ends it and nothing is left open. -/
theorem word_step {w : List Char} (hword : r.word = some w) :
    (∃ v, (r.step c).word = some v) ∨ r.step c = outside (w.reverse :: r.done) none := by
  unfold step
  split
  · exact Or.inl ⟨_, rfl⟩
  · by_cases hc : isBlank c = true
    · right
      rw [stepBare, if_pos hc, endWord, hword]
      rfl
    · exact Or.inl (exists_word_stepBare (by simpa using hc))
  · split
    · exact Or.inl ⟨w, hword⟩
    · exact Or.inl ⟨_, rfl⟩
  · split
    · exact Or.inl ⟨_, rfl⟩
    · exact Or.inl ⟨_, rfl⟩
  · unfold stepDouble
    split
    · exact Or.inl ⟨w, hword⟩
    · split
      · split
        · exact Or.inl ⟨w, hword⟩
        · exact Or.inl ⟨w, hword⟩
      · exact Or.inl ⟨_, rfl⟩

/-- Between two words nothing is left open. -/
def Settled (r : Reader) : Prop :=
  r.word = none → r = outside r.done none

theorem Settled.step (h : r.Settled) : (r.step c).Settled := by
  intro hnone
  cases hword : r.word with
  | none =>
    rw [h hword] at hnone ⊢
    by_cases hc : isBlank c = true
    · rw [step_between_blank _ hc]
      rfl
    · obtain ⟨v, hv⟩ := exists_word_stepBare (r := outside r.done none) (c := c) (by simpa using hc)
      have hsome : ((outside r.done none).step c).word = some v := hv
      rw [hsome] at hnone
      cases hnone
  | some w =>
    rcases word_step (c := c) hword with ⟨v, hv⟩ | hdone
    · rw [hv] at hnone
      cases hnone
    · rw [hdone]
      rfl

theorem Settled.run (h : r.Settled) (cs : List Char) : (r.run cs).Settled := by
  induction cs generalizing r with
  | nil => exact h
  | cons c cs ih => exact ih h.step

theorem settled_run (cs : List Char) : (Reader.run {} cs).Settled :=
  Settled.run (fun _ => rfl) cs

/-- Where a word could end, a blank ends it and leaves nothing open. -/
theorem step_blank_of_free (hr : r.Settled) (h : r.Free) (hc : isBlank c = true) :
    r.step c = outside r.finish.reverse none := by
  have hwords : r.finish = r.words := r.finish_of_not_waits fun hwaits => by
    rw [Waits, h.quoting] at hwaits
    cases hwaits.1
  rw [hwords, h.step, stepBare, if_pos hc, endWord]
  split
  · next hword =>
    rw [words, hword]
    simpa using hr hword
  · next w hword =>
    rw [words, hword]
    simp [outside]

end Reader

/-! ## A line and its beginning -/

/-- In double quotes a word is being read. -/
theorem Reader.exists_word_of_waits {r : Reader} (hr : r.Settled) (h : r.Waits) :
    ∃ w, r.word = some w := by
  cases hword : r.word with
  | none =>
    have hquoting := h.1
    rw [hr hword] at hquoting
    cases hquoting
  | some w => exact ⟨w, rfl⟩

theorem Reader.words_of_word {r : Reader} {w : List Char} (hword : r.word = some w) :
    r.words = r.done.reverse ++ [w.reverse] := by
  rw [Reader.words, hword]
  rfl

theorem Reader.finish_of_waits_word {r : Reader} (h : r.Waits) {w : List Char}
    (hword : r.word = some w) : r.finish = r.done.reverse ++ [w.reverse ++ ['\\']] := by
  rw [r.finish_of_waits h, Reader.words, Reader.push, hword]
  simp

/-- The words of a line are those of its beginning, of which the last one goes on; but a backslash
that waits there may not stay. -/
theorem ofChars_append (a b : List Char) :
    ofChars a = [] ∨ ∃ front v more rest,
      ofChars a = front ++ [v ++ (Reader.run {} a).waiting] ∧
        ofChars (a ++ b) = front ++ (v ++ more) :: rest := by
  have hgrows : Grows (Reader.run {} a).words (ofChars (a ++ b)) := by
    rw [ofChars, Reader.run_append]
    exact (Reader.grows_run _ b).trans (Reader.grows_finish _)
  by_cases h : (Reader.run {} a).Waits
  · -- Without the backslash, the word that is being read is the last one.
    obtain ⟨w, hword⟩ := Reader.exists_word_of_waits (Reader.settled_run a) h
    rw [ofChars, Reader.finish_of_waits_word h hword, Reader.waiting_of_waits h]
    rw [Reader.words_of_word hword] at hgrows
    rcases hgrows with hnil | ⟨front, v, more, rest, hsplit, hlonger⟩
    · simp at hnil
    · obtain ⟨rfl, hv⟩ := List.append_inj' hsplit rfl
      obtain rfl := List.singleton_inj.1 hv
      exact Or.inr ⟨_, _, more, rest, rfl, hlonger⟩
  · rw [ofChars, Reader.finish_of_not_waits _ h, Reader.waiting_of_not_waits h]
    rcases hgrows with hnil | ⟨front, v, more, rest, hsplit, hlonger⟩
    · exact Or.inl hnil
    · exact Or.inr ⟨front, v, more, rest, by rw [hsplit, List.append_nil], hlonger⟩

/-- A dollar sign takes the place of a backslash that waits for it. -/
theorem ofChars_append_dollar {a : List Char} (h : (Reader.run {} a).Waits) :
    ∃ front v, ofChars a = front ++ [v ++ ['\\']] ∧
      ofChars (a ++ ['$']) = front ++ [v ++ ['$']] := by
  obtain ⟨w, hword⟩ := Reader.exists_word_of_waits (Reader.settled_run a) h
  refine ⟨(Reader.run {} a).done.reverse, w.reverse, Reader.finish_of_waits_word h hword, ?_⟩
  rw [ofChars, Reader.run_append, Reader.run_cons, Reader.run_nil, Reader.step, h.1, h.2]
  simp [Reader.isDoubleEscape, Reader.finish, Reader.push, Reader.endWord, hword]

/-- The words of a longer line beside those of its beginning. -/
theorem ofLine_append (a b : String) :
    ofLine a = [] ∨ ∃ front v more rest,
      ofLine a = front ++ [v ++ String.ofList (Reader.run {} a.toList).waiting] ∧
        ofLine (a ++ b) = front ++ (v ++ more) :: rest := by
  rcases ofChars_append a.toList b.toList with hnil | ⟨front, v, more, rest, hshort, hlong⟩
  · left
    rw [ofLine, hnil]
    rfl
  · refine Or.inr ⟨front.map String.ofList, String.ofList v, String.ofList more,
      rest.map String.ofList, ?_, ?_⟩
    · rw [ofLine, hshort, List.map_append, List.map_singleton, String.ofList_append]
    · rw [ofLine, String.toList_append, hlong, List.map_append, List.map_cons, String.ofList_append]

theorem ofLine_append_dollar {a : String} (h : (Reader.run {} a.toList).Waits) :
    ∃ front v, ofLine a = front ++ [v ++ "\\"] ∧ ofLine (a ++ "$") = front ++ [v ++ "$"] := by
  obtain ⟨front, v, hshort, hlong⟩ := ofChars_append_dollar h
  refine ⟨front.map String.ofList, String.ofList v, ?_, ?_⟩
  · rw [ofLine, hshort, List.map_append, List.map_singleton, String.ofList_append]
  · have hline : (a ++ "$").toList = a.toList ++ ['$'] := String.toList_append
    rw [ofLine, hline, hlong, List.map_append, List.map_singleton, String.ofList_append]

/-- A longer line has all the words of its beginning: all but the last one are the same, and the
last one is continued. Only if the beginning ends in double quotes, behind a backslash that is not
the second half of an escape, the last one is continued without that backslash, and it may have to
be. -/
theorem ofLine_append_continued (a b : String) :
    (ofLine a).length ≤ (ofLine (a ++ b)).length ∧
      (∀ i, i + 1 < (ofLine a).length → (ofLine (a ++ b))[i]? = (ofLine a)[i]?) ∧
      (∀ w ∈ (ofLine a).getLast?, ∃ w' ∈ (ofLine (a ++ b))[(ofLine a).length - 1]?,
        if (Reader.run {} a.toList).Waits then ∃ v, w = v ++ "\\" ∧ v.toList <+: w'.toList
        else w.toList <+: w'.toList) ∧
      ((Reader.run {} a.toList).Waits → ∃ w ∈ (ofLine a).getLast?,
        ∃ w' ∈ (ofLine (a ++ "$"))[(ofLine a).length - 1]?, ¬ w.toList <+: w'.toList) := by
  refine ⟨?_, ?_, ?_, ?_⟩
  · rcases ofLine_append a b with hnil | ⟨front, v, more, rest, hshort, hlong⟩
    · simp [hnil]
    · simp [hshort, hlong]
  · intro i hi
    rcases ofLine_append a b with hnil | ⟨front, v, more, rest, hshort, hlong⟩
    · simp [hnil] at hi
    · have hfront : i < front.length := by simpa [hshort] using hi
      rw [hshort, hlong, List.getElem?_append_left hfront, List.getElem?_append_left hfront]
  · intro w hw
    rcases ofLine_append a b with hnil | ⟨front, v, more, rest, hshort, hlong⟩
    · simp [hnil] at hw
    · obtain rfl : v ++ String.ofList (Reader.run {} a.toList).waiting = w := by
        simpa [hshort] using hw
      refine ⟨v ++ more, by simp [hshort, hlong], ?_⟩
      have hprefix : v.toList <+: (v ++ more).toList := by simp
      by_cases h : (Reader.run {} a.toList).Waits
      · rw [if_pos h, Reader.waiting_of_waits h]
        exact ⟨v, rfl, hprefix⟩
      · rw [if_neg h, Reader.waiting_of_not_waits h, String.ofList_nil, String.append_empty]
        exact hprefix
  · intro h
    obtain ⟨front, v, hshort, hlong⟩ := ofLine_append_dollar h
    refine ⟨v ++ "\\", by simp [hshort], v ++ "$", by simp [hshort, hlong], ?_⟩
    rw [String.toList_append, String.toList_append, List.prefix_append_right_inj]
    decide

/-- The backslash is part of the last word as long as nothing follows. -/
example : ofLine "a \"b\\" = ["a", "b\\"] ∧ ofLine "a \"b\\$ c" = ["a", "b$ c"] := by
  decide

/-! ## A line in two parts -/

/-- A blank that stands where a word could end parts a line: both parts are read for themselves. -/
theorem ofChars_append_blank {a b : List Char} {c : Char} (hc : isBlank c = true)
    (ha : (Reader.run {} a).Free) : ofChars (a ++ c :: b) = ofChars a ++ ofChars b := by
  have hstep := Reader.step_blank_of_free (Reader.settled_run a) ha hc
  rw [ofChars, Reader.run_append, Reader.run_cons, hstep,
    finish_run_line (line_iff_ofChars_eq.2 rfl), List.reverse_reverse]
  rfl

end CommandShell.Words
