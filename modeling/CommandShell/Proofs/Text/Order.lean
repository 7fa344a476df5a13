import CommandShell.Proofs.Text.Encoding

/-!
# The order of texts and the order of their bytes

Texts are ordered by their first different character, and byte sequences by their first different
byte. The two orders are one: a character with a lower number has lower bytes, and the bytes of one
character are not the beginning of those of another.

* `before_encodeChar` — characters.
* `encode_lt_encode` — texts.
-/

namespace CommandShell.Utf8

/-! ## The first difference -/

/-- Two sequences differ at a place that both have, and the first one is lower there. -/
inductive Before : Bytes → Bytes → Prop where
  | head {x y : UInt8} {a b : Bytes} (h : x < y) : Before (x :: a) (y :: b)
  | tail {x : UInt8} {a b : Bytes} (h : Before a b) : Before (x :: a) (x :: b)

variable {x y : Nat} {a b : Bytes}

/-- What follows does not matter. -/
theorem Before.lt (h : Before a b) (c d : Bytes) : a ++ c < b ++ d := by
  induction h with
  | head h => exact List.cons_lt_cons_iff.2 (Or.inl h)
  | tail _ ih => exact List.cons_lt_cons_iff.2 (Or.inr ⟨rfl, ih⟩)

theorem ofNat_lt (hy : y < 256) (h : x < y) : UInt8.ofNat x < UInt8.ofNat y := by
  rw [UInt8.lt_iff_toNat_lt, UInt8.toNat_ofNat', UInt8.toNat_ofNat']
  omega

/-- The first byte is lower, or the difference comes later. -/
theorem Before.cons (hy : y < 256) (hle : x ≤ y) (h : x = y → Before a b) :
    Before (UInt8.ofNat x :: a) (UInt8.ofNat y :: b) := by
  rcases Nat.eq_or_lt_of_le hle with heq | hlt
  · subst heq
    exact .tail (h rfl)
  · exact .head (ofNat_lt hy hlt)

/-! ## Characters -/

/-- A character with a lower number has lower bytes. -/
theorem before_encodeChar {c d : Char} (h : c < d) :
    Before (String.utf8EncodeChar c) (String.utf8EncodeChar d) := by
  have hval : c.val.toNat < d.val.toNat := h
  have hmax : d.val.toNat < 0x110000 := by
    have hvalid := d.valid
    simp only [UInt32.isValidChar, Nat.isValidChar] at hvalid
    omega
  simp only [String.utf8EncodeChar]
  generalize c.val.toNat = m, d.val.toNat = n at hval hmax
  -- A shorter character has a lower first byte; of two as long as each other one byte decides.
  by_cases h₁ : n ≤ 127
  · rw [if_pos h₁, if_pos (by omega)]
    exact .head (ofNat_lt (by omega) hval)
  rw [if_neg h₁]
  by_cases h₂ : n ≤ 2047
  · rw [if_pos h₂]
    split
    · exact .head (ofNat_lt (by omega) (by omega))
    · rw [if_pos (by omega)]
      refine .cons (by omega) (by omega) fun h => ?_
      exact .head (ofNat_lt (by omega) (by omega))
  rw [if_neg h₂]
  by_cases h₃ : n ≤ 65535
  · rw [if_pos h₃]
    split
    · exact .head (ofNat_lt (by omega) (by omega))
    split
    · exact .head (ofNat_lt (by omega) (by omega))
    · rw [if_pos (by omega)]
      refine .cons (by omega) (by omega) fun h => ?_
      refine .cons (by omega) (by omega) fun h' => ?_
      exact .head (ofNat_lt (by omega) (by omega))
  rw [if_neg h₃]
  split
  · exact .head (ofNat_lt (by omega) (by omega))
  split
  · exact .head (ofNat_lt (by omega) (by omega))
  split
  · exact .head (ofNat_lt (by omega) (by omega))
  · refine .cons (by omega) (by omega) fun h => ?_
    refine .cons (by omega) (by omega) fun h' => ?_
    refine .cons (by omega) (by omega) fun h'' => ?_
    exact .head (ofNat_lt (by omega) (by omega))

/-! ## Texts -/

theorem flatMap_encodeChar_lt {cs ds : List Char} (h : List.Lex (· < ·) cs ds) :
    cs.flatMap String.utf8EncodeChar < ds.flatMap String.utf8EncodeChar := by
  induction h with
  | @nil c cs =>
    cases hc : String.utf8EncodeChar c with
    | nil => exact absurd hc (encodeChar_ne_nil c)
    | cons b bs =>
      rw [List.flatMap_cons, hc]
      exact List.nil_lt_cons b _
  | rel h =>
    rw [List.flatMap_cons, List.flatMap_cons]
    exact (before_encodeChar h).lt _ _
  | cons _ ih =>
    rw [List.flatMap_cons, List.flatMap_cons]
    exact List.append_left_lt ih

/-- A text that comes first has bytes that come first. -/
theorem encode_lt_encode {s t : String} (h : s < t) : encode s < encode t := by
  rw [encode_eq, encode_eq]
  exact flatMap_encodeChar_lt (String.lt_iff.1 h)

end CommandShell.Utf8
