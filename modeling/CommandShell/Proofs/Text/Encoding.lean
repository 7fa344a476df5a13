import CommandShell.Builtin

/-!
# Characters in the bytes of a text

An ASCII character is one byte, and this byte stands for nothing else: it is no part of any other
character. So a text can be searched for the character, or cut at it, in its bytes as well as in its
characters.

* `mem_encode` — a byte of an ASCII character stands for that character.
* `splitOn_encode` — a text is cut at an ASCII character into the same pieces.
* `exists_encode_of_splitOn` — bytes whose pieces are texts are a text.
* `getLast?_encode` — the last byte tells whether the last character is that ASCII character.
-/

namespace CommandShell.Utf8

/-! ## Single characters -/

/-- The byte that stands for an ASCII character. -/
def asciiByte (c : Char) : UInt8 :=
  UInt8.ofNat c.toNat

theorem encodeChar_of_ascii {c : Char} (h : c.toNat < 0x80) :
    String.utf8EncodeChar c = [asciiByte c] := by
  have hval : c.val.toNat ≤ 127 := by
    change c.val.toNat < 128 at h
    omega
  simp only [String.utf8EncodeChar, if_pos hval]
  rfl

/-- No byte of any other character stands for an ASCII character. -/
theorem le_of_mem_encodeChar {c : Char} (h : 0x80 ≤ c.toNat) {b : UInt8}
    (hb : b ∈ String.utf8EncodeChar c) : 0x80 ≤ b.toNat := by
  have hval : ¬ c.val.toNat ≤ 127 := by
    change 128 ≤ c.val.toNat at h
    omega
  simp only [String.utf8EncodeChar, if_neg hval] at hb
  split at hb
  · simp only [List.mem_cons, List.not_mem_nil, or_false] at hb
    rcases hb with rfl | rfl <;> simp only [UInt8.toNat_ofNat'] <;> omega
  split at hb
  · simp only [List.mem_cons, List.not_mem_nil, or_false] at hb
    rcases hb with rfl | rfl | rfl <;> simp only [UInt8.toNat_ofNat'] <;> omega
  · simp only [List.mem_cons, List.not_mem_nil, or_false] at hb
    rcases hb with rfl | rfl | rfl | rfl <;> simp only [UInt8.toNat_ofNat'] <;> omega

theorem toNat_asciiByte {a : Char} (h : a.toNat < 0x80) : (asciiByte a).toNat = a.toNat := by
  rw [asciiByte, UInt8.toNat_ofNat']
  omega

theorem mem_encodeChar {a : Char} (ha : a.toNat < 0x80) (c : Char) :
    asciiByte a ∈ String.utf8EncodeChar c ↔ a = c := by
  by_cases hc : c.toNat < 0x80
  · rw [encodeChar_of_ascii hc, List.mem_singleton]
    constructor
    · intro h
      have hnat : a.toNat = c.toNat := by
        rw [← toNat_asciiByte ha, ← toNat_asciiByte hc, h]
      rw [← Char.ofNat_toNat a, ← Char.ofNat_toNat c, hnat]
    · rintro rfl
      rfl
  · constructor
    · intro h
      have hle := le_of_mem_encodeChar (Nat.le_of_not_lt hc) h
      rw [toNat_asciiByte ha] at hle
      omega
    · rintro rfl
      exact absurd ha hc

theorem encodeChar_ne_nil (c : Char) : String.utf8EncodeChar c ≠ [] := by
  intro h
  have hlength := String.length_utf8EncodeChar c
  rw [h] at hlength
  exact absurd hlength.symm (Nat.ne_of_gt c.utf8Size_pos)

/-! ## Texts -/

/-- The bytes of a text are those of its characters. -/
theorem encode_ofList (cs : List Char) :
    encode (String.ofList cs) = cs.flatMap String.utf8EncodeChar := by
  rw [encode, String.toUTF8_eq_toByteArray, String.toByteArray_ofList, List.utf8Encode,
    List.toList_data_toByteArray]

theorem encode_eq (s : String) : encode s = s.toList.flatMap String.utf8EncodeChar := by
  rw [← encode_ofList, String.ofList_toList]

theorem encode_append (s t : String) : encode (s ++ t) = encode s ++ encode t := by
  rw [encode_eq, String.toList_append, List.flatMap_append, ← encode_eq, ← encode_eq]

theorem encode_eq_nil {s : String} : encode s = [] ↔ s = "" := by
  rw [encode_eq, ← String.toList_eq_nil_iff]
  constructor
  · intro h
    cases hs : s.toList with
    | nil => rfl
    | cons c cs =>
      rw [hs, List.flatMap_cons, List.append_eq_nil_iff] at h
      exact absurd h.1 (encodeChar_ne_nil c)
  · intro h
    rw [h, List.flatMap_nil]

/-- A byte of an ASCII character stands for that character. -/
theorem mem_encode {a : Char} (ha : a.toNat < 0x80) (s : String) :
    asciiByte a ∈ encode s ↔ a ∈ s.toList := by
  rw [encode_eq, List.mem_flatMap]
  simp only [mem_encodeChar ha, exists_eq_right']

/-- The last byte tells whether the last character is an ASCII character. -/
theorem getLast?_encode {a : Char} (ha : a.toNat < 0x80) (s : String) :
    (encode s).getLast? = some (asciiByte a) ↔ s.toList.getLast? = some a := by
  rw [encode_eq]
  rcases List.eq_nil_or_concat s.toList with hs | ⟨cs, c, hs⟩
  · rw [hs]
    simp
  · rw [hs, List.concat_eq_append, List.flatMap_append, List.flatMap_singleton,
      List.getLast?_concat]
    by_cases hc : c.toNat < 0x80
    · have hmem := mem_encodeChar ha c
      rw [encodeChar_of_ascii hc, List.mem_singleton] at hmem
      rw [encodeChar_of_ascii hc, List.getLast?_concat, Option.some.injEq, Option.some.injEq,
        eq_comm, hmem, eq_comm]
    · have hlast := List.getLast?_eq_some_getLast (encodeChar_ne_nil c)
      rw [List.getLast?_append, hlast, Option.some_or, Option.some.injEq, Option.some.injEq]
      constructor
      · intro h
        have hle := le_of_mem_encodeChar (Nat.le_of_not_lt hc)
          (List.getLast_mem (encodeChar_ne_nil c))
        rw [h, toNat_asciiByte ha] at hle
        omega
      · rintro rfl
        exact absurd ha hc

/-- Without its last character, an ASCII character, a text has lost its last byte. -/
theorem dropLast_encode {a : Char} (ha : a.toNat < 0x80) {cs : List Char}
    (h : cs.getLast? = some a) :
    (encode (String.ofList cs)).dropLast = encode (String.ofList cs.dropLast) := by
  obtain ⟨before, rfl⟩ := List.getLast?_eq_some_iff.1 h
  rw [List.dropLast_concat, encode_ofList, encode_ofList, List.flatMap_append,
    List.flatMap_singleton, encodeChar_of_ascii ha, List.dropLast_concat]

/-! ## Pieces -/

/-- Bytes in front that hold no separator belong to the first piece. -/
theorem splitOn_append {sep : UInt8} {b : Bytes} (h : sep ∉ b) (rest : Bytes) :
    (b ++ rest).splitOn sep = (rest.splitOn sep).modifyHead (b ++ ·) := by
  induction b with
  | nil =>
    rw [List.nil_append]
    cases rest.splitOn sep <;> rfl
  | cons x b ih =>
    have hx : (x == sep) = false := beq_false_of_ne fun hx => h (hx ▸ List.mem_cons_self)
    rw [List.cons_append, List.splitOn_cons_eq_if_modifyHead, hx,
      ih fun hb => h (List.mem_cons_of_mem x hb)]
    cases rest.splitOn sep <;> rfl

/-- A text is cut at an ASCII character in its bytes as it is in its characters. -/
theorem splitOn_encode {sep : Char} (hsep : sep.toNat < 0x80) (cs : List Char) :
    (encode (String.ofList cs)).splitOn (asciiByte sep) =
      (cs.splitOn sep).map fun p => encode (String.ofList p) := by
  simp only [encode_ofList]
  induction cs with
  | nil => rfl
  | cons c cs ih =>
    rw [List.flatMap_cons, List.splitOn_cons_eq_if_modifyHead c cs]
    by_cases hc : c = sep
    · subst hc
      rw [encodeChar_of_ascii hsep, List.singleton_append, List.splitOn_cons_eq_if_modifyHead,
        if_pos (beq_self_eq_true _), if_pos (beq_self_eq_true _), ih]
      rfl
    · have hnot : asciiByte sep ∉ String.utf8EncodeChar c := by
        rw [mem_encodeChar hsep]
        exact fun h => hc h.symm
      rw [splitOn_append hnot, ih, beq_false_of_ne hc]
      cases cs.splitOn sep <;> rfl

/-- Texts with an ASCII character between them are a text. -/
theorem exists_encode_intercalate {sep : Char} (hsep : sep.toNat < 0x80) {ps : List Bytes}
    (h : ∀ p ∈ ps, ∃ s, encode s = p) : ∃ s, encode s = [asciiByte sep].intercalate ps := by
  induction ps with
  | nil => exact ⟨"", rfl⟩
  | cons p ps ih =>
    obtain ⟨s, rfl⟩ := h p List.mem_cons_self
    obtain ⟨t, ht⟩ := ih fun q hq => h q (List.mem_cons_of_mem _ hq)
    cases ps with
    | nil => exact ⟨s, by rw [List.intercalate_singleton]⟩
    | cons q ps =>
      refine ⟨s ++ (String.ofList [sep] ++ t), ?_⟩
      rw [List.intercalate_cons_cons, encode_append, encode_append, encode_ofList,
        List.flatMap_singleton, encodeChar_of_ascii hsep, ht, List.append_assoc]

/-- Bytes are those of a text if all their pieces are, cut at an ASCII character. -/
theorem exists_encode_of_splitOn {sep : Char} (hsep : sep.toNat < 0x80) {b : Bytes}
    (h : ∀ p ∈ b.splitOn (asciiByte sep), ∃ s, encode s = p) : ∃ s, encode s = b := by
  have htext := exists_encode_intercalate hsep h
  rwa [List.intercalate_splitOn] at htext

end CommandShell.Utf8
