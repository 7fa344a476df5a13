import CommandShell.Proofs.Words.Grammar

/-!
# The reader finds the words of the grammar

A derivation is followed by the reader character by character: each piece of it leads from one state
to a state that depends on what the piece stands for only. The states outside quotes and in double
quotes have names here; the number of `\"` behind the reader is kept by its toggle as a parity.

* `run_word` — a word adds what it stands for to the word being read, wherever it stands.
* `ofChars_eq_of_line` — the reader finds the words of a derivation.
* `line_iff_ofLine_eq` — the words of a line are exactly what the grammar says.
-/

namespace CommandShell.Words

open Text (isBlank)
open Grammar

namespace Reader

/-- A reader outside quotes, with the finished words `d` and the current word `w`, both in
reverse. -/
def outside (d : List (List Char)) (w : Option (List Char)) : Reader :=
  { done := d, word := w }

/-- A reader in double quotes in which `n` escapes `\"` have been read. -/
def inDouble (d : List (List Char)) (w : List Char) (n : Nat) : Reader :=
  { done := d, word := some w, quoting := .double, swallow := decide (n % 2 = 1) }

/-- A reader in single quotes. -/
def inSingle (d : List (List Char)) (w : List Char) : Reader :=
  { done := d, word := some w, quoting := .single }

variable (d : List (List Char)) (w : List Char) (n : Nat)

/-! ## Single steps -/

theorem step_outside_blank {c : Char} (hc : isBlank c = true) :
    (outside d (some w)).step c = outside (w.reverse :: d) none := by
  simp [outside, step, stepBare, hc, endWord]

theorem step_between_blank {c : Char} (hc : isBlank c = true) :
    (outside d none).step c = outside d none := by
  simp [outside, step, stepBare, hc, endWord]

theorem step_outside_plain (o : Option (List Char)) {c : Char} (hc : isBlank c = false)
    (hs : c ≠ '\'') (hd : c ≠ '"') (hb : c ≠ '\\') :
    (outside d o).step c = outside d (some (c :: o.getD [])) := by
  simp [outside, step, stepBare, hc, hs, hd, hb, push]

theorem step_step_outside_escaped (o : Option (List Char)) (c : Char) :
    ((outside d o).step '\\').step c = outside d (some (c :: o.getD [])) := by
  have hblank : isBlank '\\' = false := by decide
  simp [outside, step, stepBare, hblank, begin, push]

theorem step_outside_single (o : Option (List Char)) :
    (outside d o).step '\'' = inSingle d (o.getD []) := by
  have hblank : isBlank '\'' = false := by decide
  simp [outside, inSingle, step, stepBare, hblank, begin]

theorem step_outside_double (o : Option (List Char)) :
    (outside d o).step '"' = inDouble d (o.getD []) 0 := by
  have hblank : isBlank '"' = false := by decide
  simp [outside, inDouble, step, stepBare, hblank, begin]

theorem step_inSingle_close : (inSingle d w).step '\'' = outside d (some w) := by
  simp [inSingle, outside, step]

theorem step_inSingle {c : Char} (hc : c ≠ '\'') :
    (inSingle d w).step c = inSingle d (c :: w) := by
  simp [inSingle, step, hc, push]

theorem step_inDouble_close (h : n % 2 = 0) :
    (inDouble d w n).step '"' = outside d (some w) := by
  simp [inDouble, outside, step, stepDouble, h]

theorem step_inDouble_dropped (h : n % 2 = 1) :
    (inDouble d w n).step '"' = inDouble d w n := by
  simp [inDouble, step, stepDouble, h]

theorem step_inDouble_other {c : Char} (hb : c ≠ '\\') (hq : c ≠ '"') :
    (inDouble d w n).step c = inDouble d (c :: w) n := by
  simp [inDouble, step, stepDouble, hb, hq, push]

theorem step_step_inDouble_escapedQuote :
    ((inDouble d w n).step '\\').step '"' = inDouble d ('"' :: w) (n + 1) := by
  have hparity : (!decide (n % 2 = 1)) = decide ((n + 1) % 2 = 1) := by
    by_cases h : n % 2 = 1
    · simp [h, show (n + 1) % 2 = 0 by omega]
    · simp [h, show (n + 1) % 2 = 1 by omega]
  simp [inDouble, step, stepDouble, isDoubleEscape, push, hparity]

theorem step_step_inDouble_escaped {c : Char} (hc : c = '$' ∨ c = '\\') :
    ((inDouble d w n).step '\\').step c = inDouble d (c :: w) n := by
  rcases hc with rfl | rfl <;> simp [inDouble, step, stepDouble, isDoubleEscape, push]

/-- A backslash before a character that it does not escape is as good as read when that character
is. -/
theorem step_step_inDouble_backslash {c : Char} (hc : c ≠ '$' ∧ c ≠ '\\' ∧ c ≠ '"') :
    ((inDouble d w n).step '\\').step c = (inDouble d ('\\' :: w) n).step c := by
  obtain ⟨hdollar, hb, hq⟩ := hc
  simp [inDouble, step, stepDouble, isDoubleEscape, push, hdollar, hb, hq]

theorem finish_between : (outside d none).finish = d.reverse := by
  simp [outside, finish, endWord]

theorem finish_outside : (outside d (some w)).finish = d.reverse ++ [w.reverse] := by
  simp [outside, finish, endWord]

theorem finish_inSingle : (inSingle d w).finish = (outside d (some w)).finish := by
  simp [inSingle, outside, finish, endWord]

theorem finish_inDouble : (inDouble d w n).finish = (outside d (some w)).finish := by
  simp [inDouble, outside, finish, endWord]

/-- A backslash at the very end of the line stays in the word. -/
theorem finish_inDouble_backslash :
    ((inDouble d w n).step '\\').finish = (outside d (some ('\\' :: w))).finish := by
  simp [inDouble, outside, step, stepDouble, finish, endWord, push]

end Reader

/-! ## Following a derivation -/

/-- What is left to say of a reader that has read a section with the current word `w`: a closed
section leads it out of the quotes, and a cut one is the end of the line. -/
def Ended (d : List (List Char)) (w : List Char) (r : Reader) : Ending → Prop
  | .closed => r = .outside d (some w)
  | .cut => r.finish = (Reader.outside d (some w)).finish

/-- A section in double quotes adds what it stands for to the current word. -/
theorem ended_run_doubleQuoted {e : Ending} {n : Nat} {s v : List Char}
    (h : DoubleQuoted e n s v) (d : List (List Char)) (w : List Char) :
    Ended d (v.reverse ++ w) ((Reader.inDouble d w n).run s) e := by
  -- The toggle of the reader is the parity of `n`, which the derivation counts.
  induction h generalizing w with
  | close heven => simpa [Ended] using Reader.step_inDouble_close d w _ heven
  | cut => simpa [Ended] using Reader.finish_inDouble d w _
  | dropped hodd _ ih =>
    rw [Reader.run_cons, Reader.step_inDouble_dropped d w _ hodd]
    exact ih w
  | escapedQuote _ ih =>
    rw [Reader.run_cons, Reader.run_cons, Reader.step_step_inDouble_escapedQuote]
    simpa using ih ('"' :: w)
  | @escaped _ _ _ _ c hc _ ih =>
    rw [Reader.run_cons, Reader.run_cons, Reader.step_step_inDouble_escaped d w _ hc]
    simpa using ih (c :: w)
  | @backslash e n s v hnext h ih =>
    -- The reader waits for the next character; the derivation has read the backslash already.
    cases s with
    | nil =>
      cases h
      simpa [Ended] using Reader.finish_inDouble_backslash d w n
    | cons c t =>
      rw [Reader.run_cons, Reader.run_cons,
        Reader.step_step_inDouble_backslash d w n (hnext c rfl), ← Reader.run_cons]
      simpa using ih ('\\' :: w)
  | @other _ _ _ _ c hb hq _ ih =>
    rw [Reader.run_cons, Reader.step_inDouble_other d w _ hb hq]
    simpa using ih (c :: w)

theorem run_inSingle {s : List Char} (h : '\'' ∉ s) (d : List (List Char)) (w : List Char) :
    (Reader.inSingle d w).run s = .inSingle d (s.reverse ++ w) := by
  induction s generalizing w with
  | nil => rfl
  | cons c t ih =>
    have hc : c ≠ '\'' := fun hc => h (by simp [hc])
    have ht : '\'' ∉ t := fun ht => h (by simp [ht])
    rw [Reader.run_cons, Reader.step_inSingle d w hc, ih ht]
    simp

/-- A segment adds what it stands for to the current word, or begins a word with it. -/
theorem run_segment {s v : List Char} (h : Segment s v) (d : List (List Char))
    (o : Option (List Char)) :
    (Reader.outside d o).run s = .outside d (some (v.reverse ++ o.getD [])) := by
  cases h with
  | plain hblank hs hd hb => exact Reader.step_outside_plain d o hblank hs hd hb
  | escaped c => exact Reader.step_step_outside_escaped d o c
  | single h =>
    rw [List.cons_append, Reader.run_cons, Reader.step_outside_single, Reader.run_append,
      run_inSingle h]
    exact Reader.step_inSingle_close d _
  | double h =>
    rw [Reader.run_cons, Reader.step_outside_double]
    exact ended_run_doubleQuoted h d (o.getD [])

/-- A word adds what it stands for to the current word, or begins a word with it. -/
theorem run_word {s v : List Char} (h : Word s v) (d : List (List Char))
    (o : Option (List Char)) :
    (Reader.outside d o).run s = .outside d (some (v.reverse ++ o.getD [])) := by
  induction h generalizing o with
  | segment h => exact run_segment h d o
  | cons h _ ih =>
    rw [Reader.run_append, run_segment h, ih]
    simp

theorem finish_run_cutSegment {s v : List Char} (h : CutSegment s v) (d : List (List Char))
    (o : Option (List Char)) :
    ((Reader.outside d o).run s).finish =
      (Reader.outside d (some (v.reverse ++ o.getD []))).finish := by
  cases h with
  | backslash =>
    have hblank : isBlank '\\' = false := by decide
    simp [Reader.outside, Reader.step, Reader.stepBare, hblank, Reader.begin, Reader.finish,
      Reader.endWord]
  | single h =>
    rw [Reader.run_cons, Reader.step_outside_single, run_inSingle h, Reader.finish_inSingle]
  | double h =>
    rw [Reader.run_cons, Reader.step_outside_double]
    exact ended_run_doubleQuoted h d (o.getD [])

theorem finish_run_cutWord {s v : List Char} (h : CutWord s v) (d : List (List Char))
    (o : Option (List Char)) :
    ((Reader.outside d o).run s).finish =
      (Reader.outside d (some (v.reverse ++ o.getD []))).finish := by
  induction h generalizing o with
  | segment h => exact finish_run_cutSegment h d o
  | cons h _ ih =>
    rw [Reader.run_append, run_segment h, ih]
    simp

/-- A line adds its words to the finished ones. -/
theorem finish_run_line {s : List Char} {ws : List (List Char)} (h : Line s ws)
    (d : List (List Char)) : ((Reader.outside d none).run s).finish = d.reverse ++ ws := by
  -- The finished words grow along the line, so the claim is for any of them.
  induction h generalizing d with
  | nil => simpa using Reader.finish_between d
  | blank hc _ ih =>
    rw [Reader.run_cons, Reader.step_between_blank d hc]
    exact ih d
  | last h =>
    rw [run_word h, Reader.finish_outside]
    simp
  | cutLast h =>
    rw [finish_run_cutWord h, Reader.finish_outside]
    simp
  | word h hc _ ih =>
    rw [Reader.run_append, run_word h, Reader.run_cons, Reader.step_outside_blank d _ hc, ih]
    simp

theorem ofChars_eq_of_line {s : List Char} {ws : List (List Char)} (h : Line s ws) :
    ofChars s = ws :=
  finish_run_line h []

/-- A line holds the words that its derivation tells, and it has a derivation for no other
words. -/
theorem line_iff_ofChars_eq {s : List Char} {ws : List (List Char)} :
    Line s ws ↔ ofChars s = ws := by
  constructor
  · exact ofChars_eq_of_line
  · intro h
    -- Some derivation exists, and the reader finds its words, so they are these.
    obtain ⟨ws', h'⟩ := exists_line s
    rwa [← h, ofChars_eq_of_line h']

theorem ofLine_eq_of_line {line : String} {ws : List String}
    (h : Line line.toList (ws.map String.toList)) : ofLine line = ws := by
  simp [ofLine, ofChars_eq_of_line h, Function.comp_def]

/-- The words of a line are `ws` exactly if the line is derived to hold `ws`. In particular, every
line has a derivation, and two derivations of it tell the same words. -/
theorem line_iff_ofLine_eq {line : String} {ws : List String} :
    Line line.toList (ws.map String.toList) ↔ ofLine line = ws := by
  constructor
  · exact ofLine_eq_of_line
  · intro h
    rw [line_iff_ofChars_eq, ← h]
    simp [ofLine, Function.comp_def]

end CommandShell.Words
