/-!
# Texts as bytes

Files, paths and streams hold bytes, words and messages hold characters; UTF-8 leads from one to
the other. `Utf8.decode?` reads bytes that are well formed as a whole, and `decode?_encode` says
that it undoes `encode`. `Utf8.decodeLossy` reads any bytes: each longest part that begins a
character but does not complete it becomes one replacement character.
-/

namespace CommandShell

/-- A sequence of bytes. -/
abbrev Bytes := List UInt8

namespace Utf8

/-- The bytes of a text. -/
def encode (s : String) : Bytes :=
  s.toUTF8.data.toList

/-- The text that well-formed bytes stand for. -/
def decode? (b : Bytes) : Option String :=
  String.fromUTF8? ⟨b.toArray⟩

theorem decode?_encode (s : String) : decode? (encode s) = some s := by
  have h : (⟨s.toUTF8.data.toList.toArray⟩ : ByteArray) = s.toUTF8 := by simp
  have valid : s.toUTF8.IsValidUTF8 := s.isValidUTF8
  unfold decode? encode
  rw [h, String.fromUTF8?, dif_pos valid]
  rfl

theorem encode_injective {s t : String} (h : encode s = encode t) : s = t :=
  Option.some.inj (by rw [← decode?_encode s, ← decode?_encode t, h])

/-! ## Reading any bytes -/

/-- A character whose first bytes have been read. -/
structure Partial where
  /-- How many bytes are still missing, at least one. -/
  missing : Nat
  /-- The least value that the next byte may have. -/
  low : Nat
  /-- The greatest value that the next byte may have. -/
  high : Nat
  /-- The bits read so far. -/
  bits : Nat
  deriving DecidableEq, Repr

/-- What stands in the place of bytes that form no character. -/
def replacement : Char := '\uFFFD'

/-- Takes the first byte of a character. -/
def first (b : UInt8) : List Char × Option Partial :=
  let n := b.toNat
  if n < 0x80 then ([Char.ofNat n], none)
  else if 0xC2 ≤ n ∧ n ≤ 0xDF then ([], some ⟨1, 0x80, 0xBF, n % 0x20⟩)
  else if n = 0xE0 then ([], some ⟨2, 0xA0, 0xBF, 0⟩)
  else if n = 0xED then ([], some ⟨2, 0x80, 0x9F, 0xD⟩)
  else if 0xE1 ≤ n ∧ n ≤ 0xEF then ([], some ⟨2, 0x80, 0xBF, n % 0x10⟩)
  else if n = 0xF0 then ([], some ⟨3, 0x90, 0xBF, 0⟩)
  else if 0xF1 ≤ n ∧ n ≤ 0xF3 then ([], some ⟨3, 0x80, 0xBF, n % 0x08⟩)
  else if n = 0xF4 then ([], some ⟨3, 0x80, 0x8F, 4⟩)
  else ([replacement], none)

/-- Takes the next byte; a byte that does not continue the open character starts anew. -/
def next : Option Partial → UInt8 → List Char × Option Partial
  | none, b => first b
  | some p, b =>
    if p.low ≤ b.toNat ∧ b.toNat ≤ p.high then
      let bits := p.bits * 0x40 + b.toNat % 0x40
      if p.missing ≤ 1 then ([Char.ofNat bits], none)
      else ([], some ⟨p.missing - 1, 0x80, 0xBF, bits⟩)
    else
      let (cs, q) := first b
      (replacement :: cs, q)

/-- The characters of the remaining bytes, given the character that is open. -/
def decodeFrom (p : Option Partial) : Bytes → List Char
  | [] => if p.isSome then [replacement] else []
  | b :: rest =>
    let (cs, q) := next p b
    cs ++ decodeFrom q rest

/-- The text of any bytes, with replacement characters where they are not well formed. -/
def decodeLossy (b : Bytes) : String :=
  match decode? b with
  | some s => s
  | none => String.ofList (decodeFrom none b)

theorem decodeLossy_encode (s : String) : decodeLossy (encode s) = s := by
  simp [decodeLossy, decode?_encode]

end Utf8

end CommandShell
