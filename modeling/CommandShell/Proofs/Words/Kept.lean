import CommandShell.Proofs.Words.RoundTrip

/-!
# What reading keeps of a line

The reader drops characters and never adds or moves one: the words that it would find if the line
ended here grow by the next character or stay as they are. So a line that is read as itself, but
for a blank at its end, holds nothing that the reader drops.

* `flatten_ofChars_sublist` — the words of a line are a part of its characters, in their order.
* `ofChars_append_space_iff` — which texts are read as themselves when a space follows.
-/

namespace CommandShell.Words

open Text (isBlank)

/-! ## Characters that stand for themselves -/

/-- Whether a character outside quotes stands for itself. -/
def isBare (c : Char) : Bool :=
  !isBlank c && c != '\'' && c != '"' && c != '\\'

theorem isBare_iff {c : Char} :
    isBare c = true ↔ isBlank c = false ∧ c ≠ '\'' ∧ c ≠ '"' ∧ c ≠ '\\' := by
  simp [isBare, and_assoc]

theorem word_of_all_isBare {w : List Char} (hne : w ≠ []) (h : w.all isBare = true) :
    Grammar.Word w w := by
  apply word_of_segments hne
  intro c hc
  obtain ⟨hblank, hs, hd, hb⟩ := isBare_iff.1 (List.all_eq_true.1 h c hc)
  exact .plain hblank hs hd hb

namespace Reader

/-! ## One character -/

/-- The finished words and the current one, written without a gap. -/
def text (r : Reader) : List Char :=
  r.done.reverse.flatten ++ (r.word.getD []).reverse

/-- The backslash that waits in double quotes for the next character. -/
def waiting (r : Reader) : List Char :=
  if r.quoting = .double ∧ r.escaping = true then ['\\'] else []

/-- What a reader would have kept of the line if the line ended here. -/
def kept (r : Reader) : List Char :=
  r.text ++ r.waiting

variable (r : Reader) (c : Char)

@[simp] theorem text_push : (r.push c).text = r.text ++ [c] := by
  simp [text, push]

@[simp] theorem text_begin : r.begin.text = r.text := by
  simp [text, begin]

@[simp] theorem text_endWord : r.endWord.text = r.text := by
  obtain ⟨d, o, q, swallow, escaping⟩ := r
  cases o <;> simp [text, endWord]

/-- Only the words count for what a reader has read. -/
@[simp] theorem text_mk (q : Quoting) (swallow escaping : Bool) :
    text ⟨r.done, r.word, q, swallow, escaping⟩ = r.text := rfl

/-- Outside double quotes nothing waits. -/
theorem kept_of_ne_double (h : r.quoting ≠ .double) : r.kept = r.text := by
  rw [kept, waiting, if_neg fun hboth => h hboth.1, List.append_nil]

theorem kept_of_not_escaping (h : r.escaping = false) : r.kept = r.text := by
  rw [kept, waiting, h, if_neg fun hboth => Bool.false_ne_true hboth.2, List.append_nil]

theorem flatten_finish : r.finish.flatten = r.kept := by
  have hclosed : ∀ s : Reader, s.endWord.done.reverse.flatten = s.text := by
    intro s
    obtain ⟨d, o, q, swallow, escaping⟩ := s
    cases o <;> simp [text, endWord]
  rw [finish, hclosed, kept]
  by_cases hwaits : r.quoting = .double ∧ r.escaping = true
  · simp [waiting, hwaits]
  · rw [waiting, if_neg hwaits, if_neg (by simpa using hwaits), List.append_nil]

/-- Outside quotes a character that stands for itself is added, and any other is dropped. -/
theorem kept_stepBare (hq : r.quoting = .bare) (he : r.escaping = false) :
    (r.stepBare c).kept = r.text ++ if isBare c then [c] else [] := by
  have hdropped : isBare c = false → r.text = r.text ++ if isBare c then [c] else [] := by
    intro hc
    rw [hc, if_neg Bool.false_ne_true, List.append_nil]
  unfold stepBare
  split
  · next hblank =>
    have hend : r.endWord.quoting ≠ .double := by
      unfold endWord
      split <;> simp [hq]
    rw [kept_of_ne_double _ hend, text_endWord]
    exact hdropped (by simp [isBare, hblank])
  · next hblank =>
    split
    · next hb =>
      rw [kept_of_ne_double _ (by simp [begin, hq]), text_mk, text_begin]
      exact hdropped (by simp [isBare, hb])
    · next hb =>
      split
      · next hs =>
        rw [kept_of_ne_double _ (by simp), text_mk, text_begin]
        exact hdropped (by simp [isBare, hs])
      · next hs =>
        split
        · next hd =>
          rw [kept_of_not_escaping _ (by simp [begin, he]), text_mk, text_begin]
          exact hdropped (by simp [isBare, hd])
        · next hd =>
          have hbare : isBare c = true := isBare_iff.2 ⟨by simpa using hblank, hs, hd, hb⟩
          rw [kept_of_ne_double _ (by simp [push, hq]), text_push, hbare, if_pos rfl]

/-- What becomes of what was kept when a character is read. -/
inductive Taken (before : List Char) (c : Char) : List Char → Prop where
  | added : Taken before c (before ++ [c])
  /-- Only a character that does not stand for itself is dropped. -/
  | dropped (hc : isBare c = false) : Taken before c before
  /-- The character takes the place of the backslash that escapes it. -/
  | escaped {l : List Char} (hbefore : before = l ++ ['\\']) : Taken before c (l ++ [c])

variable {r c}

theorem Taken.of_added {before : List Char} (h : r.kept = before ++ [c]) :
    Taken before c r.kept :=
  h ▸ .added

theorem Taken.of_dropped {before : List Char} (h : r.kept = before) (hc : isBare c = false) :
    Taken before c r.kept :=
  h ▸ .dropped hc

theorem Taken.sublist {before after : List Char} (h : Taken before c after) :
    after.Sublist (before ++ [c]) := by
  cases h with
  | added => exact .refl _
  | dropped => exact List.sublist_append_left _ [c]
  | @escaped l hbefore =>
    rw [hbefore, List.append_assoc]
    exact (List.sublist_append_right ['\\'] [c]).append_left l

/-- Of the characters that stand for themselves none is lost and none is added. -/
theorem Taken.filter_isBare {before after : List Char} (h : Taken before c after) :
    after.filter isBare = (before ++ [c]).filter isBare := by
  cases h with
  | added => rfl
  | dropped hc => simp [hc]
  | escaped hbefore =>
    have hbackslash : isBare '\\' = false := by decide
    simp [hbefore, hbackslash]

variable (r c)

/-- In double quotes a character is added, or it is a quote and dropped. -/
theorem taken_stepDouble (hq : r.quoting = .double) (he : r.escaping = false) :
    Taken r.text c (r.stepDouble c).kept := by
  unfold stepDouble
  split
  · next hb =>
    have hwaits : ({ r with escaping := true } : Reader).waiting = [c] := by simp [waiting, hq, hb]
    apply Taken.of_added
    rw [kept, hwaits, text_mk]
  · split
    · next hd =>
      have hc : isBare c = false := by simp [isBare, hd]
      refine Taken.of_dropped ?_ hc
      split
      · rw [kept_of_not_escaping r he]
      · rw [kept_of_ne_double _ (by simp), text_mk]
    · apply Taken.of_added
      rw [kept_of_not_escaping _ (by simp [push, he]), text_push]

/-- A character is added at the end of what has been kept, in the place of a backslash that has
waited for it, or it is dropped. -/
theorem taken_step : Taken r.kept c (r.step c).kept := by
  unfold step
  split
  · next hq he =>
    -- Outside quotes, behind a backslash.
    rw [kept_of_ne_double r (by simp [hq])]
    apply Taken.of_added
    rw [kept_of_ne_double _ (by simp [push, hq]), text_mk, text_push]
  · next hq he =>
    -- Outside quotes.
    have hbare := r.kept_stepBare c hq he
    rw [kept_of_not_escaping r he]
    cases hc : isBare c with
    | true =>
      rw [hc, if_pos rfl] at hbare
      exact .of_added hbare
    | false =>
      rw [hc, if_neg Bool.false_ne_true, List.append_nil] at hbare
      exact .of_dropped hbare hc
  · next hq =>
    -- In single quotes.
    rw [kept_of_ne_double r (by simp [hq])]
    split
    · next hs =>
      have hc : isBare c = false := by simp [isBare, hs]
      refine Taken.of_dropped ?_ hc
      rw [kept_of_ne_double _ (by simp), text_mk]
    · apply Taken.of_added
      rw [kept_of_ne_double _ (by simp [push, hq]), text_push]
  · next hq he =>
    -- In double quotes, behind a backslash, which gives way to a character that it escapes.
    have hwaits : r.kept = r.text ++ ['\\'] := by simp [kept, waiting, hq, he]
    rw [hwaits]
    have hescaped : ∀ swallow : Bool,
        ({ r.push c with escaping := false, swallow } : Reader).kept = r.text ++ [c] := by
      intro swallow
      rw [kept_of_not_escaping _ rfl, text_mk, text_push]
    split
    · rw [hescaped]
      exact .escaped rfl
    · apply Taken.of_added
      rw [kept_of_not_escaping _ (by simp), text_mk, text_push, text_push]
  · next hq he =>
    -- In double quotes.
    rw [kept_of_not_escaping r he]
    exact r.taken_stepDouble c hq he

/-! ## A line -/

theorem kept_run (cs : List Char) : ((r.run cs).kept).Sublist (r.kept ++ cs) := by
  induction cs generalizing r with
  | nil => simp
  | cons c cs ih =>
    rw [run_cons]
    have hstep := (r.taken_step c).sublist.append_right cs
    rw [List.append_assoc] at hstep
    exact (ih (r.step c)).trans hstep

theorem filter_kept_run (cs : List Char) :
    (r.run cs).kept.filter isBare = (r.kept ++ cs).filter isBare := by
  induction cs generalizing r with
  | nil => simp
  | cons c cs ih =>
    rw [run_cons, ih, List.filter_append, (r.taken_step c).filter_isBare, ← List.filter_append,
      List.append_assoc, List.singleton_append]

theorem length_kept_run (cs : List Char) :
    (r.run cs).kept.length ≤ r.kept.length + cs.length := by
  have hlength := (r.kept_run cs).length_le
  rwa [List.length_append] at hlength

/-! ## Outside quotes -/

/-- A reader stands outside quotes, and no backslash is waiting. -/
structure Free (r : Reader) : Prop where
  quoting : r.quoting = .bare
  escaping : r.escaping = false

variable {r c}

theorem Free.step (h : r.Free) : r.step c = r.stepBare c := by
  rw [Reader.step, h.quoting, h.escaping]

theorem Free.kept_step (h : r.Free) :
    (r.step c).kept = r.kept ++ if isBare c then [c] else [] := by
  rw [h.step, r.kept_stepBare c h.quoting h.escaping, r.kept_of_not_escaping h.escaping]

/-- A blank is dropped, and the reader is still outside quotes. -/
theorem Free.step_blank (h : r.Free) (hc : isBlank c = true) : (r.step c).Free := by
  rw [h.step, stepBare, if_pos hc, endWord]
  split
  · exact h
  · exact ⟨rfl, rfl⟩

/-- Characters that stand for themselves are all kept. -/
theorem Free.run_bare (h : r.Free) {cs : List Char} (hcs : cs.all isBare = true) :
    (r.run cs).Free ∧ (r.run cs).kept = r.kept ++ cs := by
  induction cs generalizing r with
  | nil => exact ⟨h, (List.append_nil _).symm⟩
  | cons c cs ih =>
    rw [List.all_cons, Bool.and_eq_true] at hcs
    obtain ⟨hc, hcs⟩ := hcs
    obtain ⟨hblank, hs, hd, hb⟩ := isBare_iff.1 hc
    have hpush : r.step c = r.push c := by
      rw [h.step, stepBare, if_neg (by simp [hblank]), if_neg hb, if_neg hs, if_neg hd]
    have hfree : (r.step c).Free := by
      rw [hpush]
      exact ⟨h.quoting, h.escaping⟩
    obtain ⟨hrun, hkept⟩ := ih hfree hcs
    refine ⟨hrun, ?_⟩
    rw [run_cons, hkept, h.kept_step, hc, if_pos rfl, List.append_assoc, List.singleton_append]

end Reader

/-- The words of a line are a part of its characters, in their order. -/
theorem flatten_ofChars_sublist (cs : List Char) : (ofChars cs).flatten.Sublist cs := by
  rw [ofChars, Reader.flatten_finish]
  exact Reader.kept_run {} cs

/-! ## Texts that are read as themselves -/

/-- If some characters are the same without the first one as without the last one, the first one and
the last one are the same. -/
theorem eq_of_cons_eq_append_singleton {c e : Char} {cs : List Char} (h : c :: cs = cs ++ [e]) :
    c = e := by
  have hcount := congrArg (List.count c) h
  rw [List.count_cons_self, List.count_append, List.count_singleton] at hcount
  by_cases heq : c = e
  · exact heq
  · rw [if_neg (by simpa using Ne.symm heq)] at hcount
    omega

/-- A text in front of a space is not kept as it is if it has a character that does not stand for
itself. -/
theorem kept_ne_of_not_bare {name : List Char} (h : name.all isBare = false) :
    (Reader.run {} (name ++ [' '])).kept ≠ name := by
  intro hkept
  obtain ⟨c, hc⟩ : ∃ c, name.find? (fun c => !isBare c) = some c := by
    rw [← Option.isSome_iff_exists, List.find?_isSome]
    simpa using h
  obtain ⟨hbare, p, q, rfl, hp⟩ := List.find?_eq_some_iff_append.1 hc
  have hbare : isBare c = false := by simpa using hbare
  have hstart : Reader.Free {} := ⟨rfl, rfl⟩
  obtain ⟨hfree, hp⟩ := hstart.run_bare (List.all_eq_true.2 (by simpa using hp))
  -- The first character with a meaning is dropped, so nothing behind it is.
  have hdropped : ((Reader.run {} p).step c).kept = p := by
    rw [hfree.kept_step, hbare, hp]
    exact List.append_nil _
  rw [List.append_assoc, List.cons_append, Reader.run_append, Reader.run_cons] at hkept
  have hpart := ((Reader.run {} p).step c).kept_run (q ++ [' '])
  rw [hkept, hdropped] at hpart
  have hshift := List.append_cancel_left (hpart.eq_of_length (by simp))
  obtain rfl := eq_of_cons_eq_append_singleton hshift
  -- It is a space, then, and one more space follows; but both of them are dropped.
  have hfree' := hfree.step_blank Text.isBlank_space
  rw [← hshift, Reader.run_cons] at hkept
  have hlength := Reader.length_kept_run (((Reader.run {} p).step ' ').step ' ') q
  rw [hkept, hfree'.kept_step, hbare, hdropped] at hlength
  simp only [List.length_append, List.length_cons, List.length_nil, Bool.false_eq_true,
    if_false] at hlength
  omega

/-- A text in front of a space is read as itself exactly if it is not empty and each of its
characters stands for itself. -/
theorem ofChars_append_space_iff {name : List Char} :
    ofChars (name ++ [' ']) = [name] ↔ name ≠ [] ∧ name.all isBare = true := by
  constructor
  · intro h
    have hkept : (Reader.run {} (name ++ [' '])).kept = name := by
      rw [← Reader.flatten_finish, ← ofChars, h, List.flatten_singleton]
    constructor
    · rintro rfl
      revert h
      decide
    · apply Decidable.byContradiction
      intro hall
      exact kept_ne_of_not_bare (by simpa using hall) hkept
  · rintro ⟨hne, hall⟩
    have hline : Grammar.Line (name ++ ' ' :: []) [name] :=
      .word (word_of_all_isBare hne hall) Text.isBlank_space .nil
    exact ofChars_eq_of_line hline

/-- Blanks at the start of a line are passed over. -/
theorem ofChars_blanks {b cs : List Char} (h : b.all isBlank = true) :
    ofChars (b ++ cs) = ofChars cs :=
  ofChars_eq_of_line (.blanks h (line_iff_ofChars_eq.2 rfl))

/-- A line holds no words exactly if it holds nothing but blanks. -/
theorem ofChars_eq_nil_iff {cs : List Char} : ofChars cs = [] ↔ cs.all isBlank = true := by
  constructor
  · intro h
    have hline : Grammar.Line cs [] := line_iff_ofChars_eq.2 h
    clear h
    generalize hws : ([] : List (List Char)) = ws at hline
    -- Only the two rules that add no word can have been used.
    induction hline with
    | nil => rfl
    | blank hc _ ih =>
      rw [List.all_cons, Bool.and_eq_true]
      exact ⟨hc, ih hws⟩
    | last => cases hws
    | cutLast => cases hws
    | word => cases hws
  · intro h
    have hblanks : ofChars (cs ++ []) = ofChars [] := ofChars_blanks h
    rwa [List.append_nil] at hblanks

theorem ofLine_eq_nil_iff {line : String} : ofLine line = [] ↔ Text.allBlank line = true := by
  rw [ofLine, List.map_eq_nil_iff, ofChars_eq_nil_iff, Text.allBlank]

end CommandShell.Words
