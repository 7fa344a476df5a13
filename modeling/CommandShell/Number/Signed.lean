/-!
# Reading whole numbers

`digits?` reads a number from decimal digits alone, `signed?` one with an optional sign, and
`signed32?` one that fits into 32 bits as a signed number. Any number of leading zeros is allowed,
and nothing else is: no blanks, no separators, no digits beyond ASCII.
-/

namespace CommandShell.Number

/-- The value of a digit in base ten. -/
def digitValue? (c : Char) : Option Nat :=
  if c.isDigit then some (c.toNat - 0x30) else none

/-- The value of decimal digits that follow a number. -/
def digitsFrom? (n : Nat) : List Char → Option Nat
  | [] => some n
  | c :: cs => (digitValue? c).bind fun d => digitsFrom? (10 * n + d) cs

/-- The value of one or more decimal digits. -/
def digits? : List Char → Option Nat
  | [] => none
  | cs => digitsFrom? 0 cs

/-- The value of an optional sign and one or more decimal digits. -/
def signed? : List Char → Option Int
  | '+' :: cs => (digits? cs).map Int.ofNat
  | '-' :: cs => (digits? cs).map fun n => -Int.ofNat n
  | cs => (digits? cs).map Int.ofNat

/-- The least number of 32 bits with a sign. -/
def least32 : Int := -0x80000000

/-- The greatest number of 32 bits with a sign. -/
def greatest32 : Int := 0x7FFFFFFF

/-- The number that a text spells, if it fits into 32 bits with a sign. -/
def signed32? (s : String) : Option Int :=
  (signed? s.toList).filter fun n => least32 ≤ n && n ≤ greatest32

end CommandShell.Number
