import CommandShell.Words.Reader

/-!
# The grammar of words

Which words a line holds, said by derivations and without a reader. A word is a sequence of
segments, and each segment is a character that stands for itself, an escaped character, or a section
in single or double quotes. Only the last word of a line may be cut by its end.

* `exists_line` — every line has a derivation.

That a line has no two of them, and that the reader finds it, is in `Proofs.Words.Reading`.
-/

namespace CommandShell.Words.Grammar

open Text (isBlank)

/-- How a section in quotes comes to its end: by its closing quote, or by the end of the line. -/
inductive Ending where
  | closed
  | cut
  deriving DecidableEq, Repr

/-- `DoubleQuoted e n s v`: in double quotes, with `n` escapes `\"` behind it, the text `s` is what
remains of the section, with its closing quote if it has one, and stands for `v`. -/
inductive DoubleQuoted : Ending → Nat → List Char → List Char → Prop where
  /-- The first bare quote after an even number of `\"` closes the section. -/
  | close {n : Nat} (heven : n % 2 = 0) : DoubleQuoted .closed n ['"'] []
  /-- The line ends. -/
  | cut {n : Nat} : DoubleQuoted .cut n [] []
  /-- A bare quote after an odd number of `\"` stands for nothing. -/
  | dropped {e : Ending} {n : Nat} {s v : List Char} (hodd : n % 2 = 1)
      (h : DoubleQuoted e n s v) : DoubleQuoted e n ('"' :: s) v
  | escapedQuote {e : Ending} {n : Nat} {s v : List Char}
      (h : DoubleQuoted e (n + 1) s v) : DoubleQuoted e n ('\\' :: '"' :: s) ('"' :: v)
  | escaped {e : Ending} {n : Nat} {s v : List Char} {c : Char} (hc : c = '$' ∨ c = '\\')
      (h : DoubleQuoted e n s v) : DoubleQuoted e n ('\\' :: c :: s) (c :: v)
  /-- A backslash that escapes nothing stands for itself. -/
  | backslash {e : Ending} {n : Nat} {s v : List Char}
      (hnext : ∀ c ∈ s.head?, c ≠ '$' ∧ c ≠ '\\' ∧ c ≠ '"')
      (h : DoubleQuoted e n s v) : DoubleQuoted e n ('\\' :: s) ('\\' :: v)
  | other {e : Ending} {n : Nat} {s v : List Char} {c : Char} (hb : c ≠ '\\') (hq : c ≠ '"')
      (h : DoubleQuoted e n s v) : DoubleQuoted e n (c :: s) (c :: v)

/-- `Segment s v`: the text `s` is a piece of a word and stands for `v`. -/
inductive Segment : List Char → List Char → Prop where
  | plain {c : Char} (hblank : isBlank c = false) (hs : c ≠ '\'') (hd : c ≠ '"') (hb : c ≠ '\\') :
      Segment [c] [c]
  | escaped (c : Char) : Segment ['\\', c] [c]
  | single {s : List Char} (h : '\'' ∉ s) : Segment ('\'' :: s ++ ['\'']) s
  | double {s v : List Char} (h : DoubleQuoted .closed 0 s v) : Segment ('"' :: s) v

/-- `CutSegment s v`: the text `s` is a piece of a word that the end of the line cuts, and stands
for `v`. -/
inductive CutSegment : List Char → List Char → Prop where
  /-- A backslash with nothing after it stands for nothing. -/
  | backslash : CutSegment ['\\'] []
  | single {s : List Char} (h : '\'' ∉ s) : CutSegment ('\'' :: s) s
  | double {s v : List Char} (h : DoubleQuoted .cut 0 s v) : CutSegment ('"' :: s) v

/-- `Word s v`: the text `s` is a sequence of segments, at least one, and stands for `v`. -/
inductive Word : List Char → List Char → Prop where
  | segment {s v : List Char} (h : Segment s v) : Word s v
  | cons {s v t u : List Char} (h : Segment s v) (hrest : Word t u) : Word (s ++ t) (v ++ u)

/-- `CutWord s v`: the text `s` is a sequence of segments of which the last one is cut, and stands
for `v`. -/
inductive CutWord : List Char → List Char → Prop where
  | segment {s v : List Char} (h : CutSegment s v) : CutWord s v
  | cons {s v t u : List Char} (h : Segment s v) (hrest : CutWord t u) : CutWord (s ++ t) (v ++ u)

/-- `Line s ws`: the line `s` holds the words `ws`, between which there are blanks. -/
inductive Line : List Char → List (List Char) → Prop where
  | nil : Line [] []
  | blank {c : Char} {s : List Char} {ws : List (List Char)} (hc : isBlank c = true)
      (h : Line s ws) : Line (c :: s) ws
  | last {s v : List Char} (h : Word s v) : Line s [v]
  | cutLast {s v : List Char} (h : CutWord s v) : Line s [v]
  | word {s v : List Char} {c : Char} {t : List Char} {ws : List (List Char)} (h : Word s v)
      (hc : isBlank c = true) (hrest : Line t ws) : Line (s ++ c :: t) (v :: ws)

/-! ## Words and blanks side by side -/

/-- Two words with nothing between them are one word. -/
theorem Word.append {s v t u : List Char} (h : Word s v) (h' : Word t u) :
    Word (s ++ t) (v ++ u) := by
  induction h with
  | segment h => exact .cons h h'
  | cons h _ ih =>
    rw [List.append_assoc, List.append_assoc]
    exact .cons h ih

/-- A line may begin with any blanks. -/
theorem Line.blanks {gap s : List Char} {ws : List (List Char)} (hgap : gap.all isBlank = true)
    (h : Line s ws) : Line (gap ++ s) ws := by
  induction gap with
  | nil => exact h
  | cons c gap ih =>
    rw [List.all_cons, Bool.and_eq_true] at hgap
    exact .blank hgap.1 (ih hgap.2)

/-! ## Every line has a derivation -/

/-- Text in double quotes runs up to a closing quote or to the end of the line. -/
theorem exists_doubleQuoted (n : Nat) (s : List Char) :
    ∃ e p rest v, s = p ++ rest ∧ DoubleQuoted e n p v ∧ (e = .cut → rest = []) := by
  -- Two characters at a time, since what follows a backslash tells whether it escapes.
  match s with
  | [] => exact ⟨.cut, [], [], [], rfl, .cut, fun _ => rfl⟩
  | [c] =>
    by_cases hb : c = '\\'
    · subst hb
      exact ⟨.cut, ['\\'], [], ['\\'], rfl, .backslash (by simp) .cut, fun _ => rfl⟩
    · by_cases hq : c = '"'
      · subst hq
        rcases Nat.mod_two_eq_zero_or_one n with heven | hodd
        · exact ⟨.closed, ['"'], [], [], rfl, .close heven, nofun⟩
        · exact ⟨.cut, ['"'], [], [], rfl, .dropped hodd .cut, fun _ => rfl⟩
      · exact ⟨.cut, [c], [], [c], rfl, .other hb hq .cut, fun _ => rfl⟩
  | c :: d :: t =>
    by_cases hb : c = '\\'
    · subst hb
      by_cases hq : d = '"'
      · subst hq
        obtain ⟨e, p, rest, v, rfl, h, hcut⟩ := exists_doubleQuoted (n + 1) t
        exact ⟨e, '\\' :: '"' :: p, rest, '"' :: v, rfl, .escapedQuote h, hcut⟩
      · by_cases hesc : d = '$' ∨ d = '\\'
        · obtain ⟨e, p, rest, v, rfl, h, hcut⟩ := exists_doubleQuoted n t
          exact ⟨e, '\\' :: d :: p, rest, d :: v, rfl, .escaped hesc h, hcut⟩
        · obtain ⟨e, p, rest, v, hs, h, hcut⟩ := exists_doubleQuoted n (d :: t)
          refine ⟨e, '\\' :: p, rest, '\\' :: v, by rw [hs]; rfl, .backslash ?_ h, hcut⟩
          -- What follows the backslash in the section follows it in the line.
          intro c hc
          have hhead : (p ++ rest).head? = some c := by simp [Option.mem_def.1 hc]
          rw [← hs] at hhead
          have hcd : d = c := by simpa using hhead
          subst hcd
          exact ⟨fun h => hesc (Or.inl h), fun h => hesc (Or.inr h), hq⟩
    · by_cases hq : c = '"'
      · subst hq
        rcases Nat.mod_two_eq_zero_or_one n with heven | hodd
        · exact ⟨.closed, ['"'], d :: t, [], rfl, .close heven, nofun⟩
        · obtain ⟨e, p, rest, v, hs, h, hcut⟩ := exists_doubleQuoted n (d :: t)
          exact ⟨e, '"' :: p, rest, v, by rw [hs]; rfl, .dropped hodd h, hcut⟩
      · obtain ⟨e, p, rest, v, hs, h, hcut⟩ := exists_doubleQuoted n (d :: t)
        exact ⟨e, c :: p, rest, c :: v, by rw [hs]; rfl, .other hb hq h, hcut⟩
termination_by s.length

/-- Text in single quotes runs up to the closing quote or to the end of the line. -/
theorem exists_single (s : List Char) :
    '\'' ∉ s ∨ ∃ p rest, s = p ++ '\'' :: rest ∧ '\'' ∉ p := by
  induction s with
  | nil => simp
  | cons c t ih =>
    by_cases hc : c = '\''
    · subst hc
      exact Or.inr ⟨[], t, rfl, by simp⟩
    · rcases ih with h | ⟨p, rest, rfl, h⟩
      · exact Or.inl (by simp [Ne.symm hc, h])
      · exact Or.inr ⟨c :: p, rest, rfl, by simp [Ne.symm hc, h]⟩

/-- Text that does not begin with a blank begins with a segment. -/
theorem exists_segment (c : Char) (t : List Char) (hc : isBlank c = false) :
    (∃ v, CutSegment (c :: t) v) ∨
      ∃ p rest v, c :: t = p ++ rest ∧ p ≠ [] ∧ Segment p v := by
  by_cases hb : c = '\\'
  · subst hb
    cases t with
    | nil => exact Or.inl ⟨[], .backslash⟩
    | cons d t => exact Or.inr ⟨['\\', d], t, [d], rfl, by simp, .escaped d⟩
  by_cases hs : c = '\''
  · subst hs
    rcases exists_single t with h | ⟨p, rest, rfl, h⟩
    · exact Or.inl ⟨t, .single h⟩
    · exact Or.inr ⟨'\'' :: p ++ ['\''], rest, p, by simp, by simp, .single h⟩
  by_cases hd : c = '"'
  · subst hd
    obtain ⟨e, p, rest, v, rfl, h, hcut⟩ := exists_doubleQuoted 0 t
    cases e with
    | closed => exact Or.inr ⟨'"' :: p, rest, v, rfl, by simp, .double h⟩
    | cut =>
      rw [hcut rfl, List.append_nil]
      exact Or.inl ⟨v, .double h⟩
  exact Or.inr ⟨[c], t, [c], rfl, by simp, .plain hc hs hd hb⟩

/-- Text that does not begin with a blank begins with a word, which ends at the end of the line or
before a blank. -/
theorem exists_word (c : Char) (t : List Char) (hc : isBlank c = false) :
    (∃ v, CutWord (c :: t) v) ∨ (∃ v, Word (c :: t) v) ∨
      ∃ p d rest v, c :: t = p ++ d :: rest ∧ isBlank d = true ∧ Word p v := by
  rcases exists_segment c t hc with ⟨v, h⟩ | ⟨p, rest, v, hs, hp, h⟩
  · exact Or.inl ⟨v, .segment h⟩
  · match rest with
    | [] =>
      rw [hs, List.append_nil]
      exact Or.inr (Or.inl ⟨v, .segment h⟩)
    | d :: r =>
      by_cases hd : isBlank d = true
      · exact Or.inr (Or.inr ⟨p, d, r, v, hs, hd, .segment h⟩)
      · -- No segment is empty, so the word goes on in a shorter text.
        have hlt : r.length < t.length := by
          have hpos := List.length_pos_iff.2 hp
          have hlen := congrArg List.length hs
          simp only [List.length_append, List.length_cons] at hlen
          omega
        rw [hs]
        rcases exists_word d r (by simpa using hd) with
          ⟨u, hw⟩ | ⟨u, hw⟩ | ⟨q, b, r', u, hr, hb, hw⟩
        · exact Or.inl ⟨v ++ u, .cons h hw⟩
        · exact Or.inr (Or.inl ⟨v ++ u, .cons h hw⟩)
        · exact Or.inr (Or.inr ⟨p ++ q, b, r', v ++ u, by rw [hr]; simp, hb, .cons h hw⟩)
termination_by t.length

/-- Every line holds some words. -/
theorem exists_line (s : List Char) : ∃ ws, Line s ws := by
  -- What is left behind a first blank, or behind a first word, is shorter.
  induction hlen : s.length using Nat.strongRecOn generalizing s with
  | ind n ih =>
    cases s with
    | nil => exact ⟨[], .nil⟩
    | cons c t =>
      rw [List.length_cons] at hlen
      by_cases hc : isBlank c = true
      · obtain ⟨ws, h⟩ := ih t.length (by omega) t rfl
        exact ⟨ws, .blank hc h⟩
      · rcases exists_word c t (by simpa using hc) with ⟨v, h⟩ | ⟨v, h⟩ | ⟨p, d, rest, v, hs, hd, h⟩
        · exact ⟨[v], .cutLast h⟩
        · exact ⟨[v], .last h⟩
        · have hrest := congrArg List.length hs
          rw [List.length_cons, List.length_append, List.length_cons] at hrest
          obtain ⟨ws, hws⟩ := ih rest.length (by omega) rest rfl
          rw [hs]
          exact ⟨v :: ws, .word h hd hws⟩

end CommandShell.Words.Grammar
