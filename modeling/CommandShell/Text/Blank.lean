/-!
# Blank characters

A property of characters is given by the ranges of their numbers. The separators between the words
of a line are the characters with the Unicode property `White_Space`; `isBlank_of_isWhitespace` says
that its table contains every character that the core library calls white space.
-/

namespace CommandShell.Text

/-- Whether the number of a character lies in one of some ranges, both ends included. -/
def inRanges (ranges : List (Nat × Nat)) (c : Char) : Bool :=
  ranges.any fun (lo, hi) => lo ≤ c.toNat && c.toNat ≤ hi

/-- The code points with the Unicode property `White_Space`, as inclusive ranges. -/
def blankRanges : List (Nat × Nat) :=
  [(0x09, 0x0D), (0x20, 0x20), (0x85, 0x85), (0xA0, 0xA0), (0x1680, 0x1680), (0x2000, 0x200A),
    (0x2028, 0x2029), (0x202F, 0x202F), (0x205F, 0x205F), (0x3000, 0x3000)]

/-- Whether a character separates words. -/
def isBlank (c : Char) : Bool :=
  inRanges blankRanges c

/-- Whether a text holds nothing but blanks. -/
def allBlank (s : String) : Bool :=
  s.toList.all isBlank

theorem isBlank_space : isBlank ' ' = true := by decide

theorem isBlank_of_isWhitespace {c : Char} (h : c.isWhitespace = true) : isBlank c = true := by
  have : c = ' ' ∨ c = '\t' ∨ c = '\r' ∨ c = '\n' := by
    simpa [Char.isWhitespace, or_assoc] using h
  rcases this with rfl | rfl | rfl | rfl <;> decide

end CommandShell.Text
