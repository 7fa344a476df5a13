/-!
# Binary numbers of 64 bits

A number of this kind is a whole number below `2 ^ 53` times a power of two from `-1074` to `971`,
or infinite, or no number. `ofDecimal` rounds a decimal to the nearest one, a tie to the even one;
`digits` finds the fewest decimal digits that are rounded back, and `text` writes them without an
exponent and with at least one digit after the point.
-/

namespace CommandShell.Number

/-- A binary number of 64 bits. -/
inductive Binary64 where
  /-- The number `mantissa * 2 ^ exponent`, with a sign. -/
  | finite (negative : Bool) (mantissa : Nat) (exponent : Int)
  | infinite (negative : Bool)
  | nan
  deriving DecidableEq, Repr

namespace Binary64

/-- The least exponent. -/
def minExponent : Int := -1074

/-- The greatest exponent. -/
def maxExponent : Int := 971

/-- The quotient of two numbers rounded to the nearest whole number, a tie to the even one. -/
def roundDiv (num den : Nat) : Nat :=
  let q := num / den
  let r := num % den
  if 2 * r < den then q
  else if den < 2 * r then q + 1
  else if q % 2 = 0 then q else q + 1

/-- A power of a base with any exponent, as a fraction. -/
def power (base : Nat) (e : Int) : Nat × Nat :=
  (base.pow e.toNat, base.pow (-e).toNat)

/-- The mantissa and exponent nearest to a fraction that is not zero; the exponent may be too
great. -/
def nearest (num den : Nat) : Nat × Int :=
  let scaled (e : Int) : Nat × Nat :=
    let p := power 2 e
    (num * p.2, den * p.1)
  let guess := max minExponent ((num.log2 : Int) - den.log2 - 53)
  let (n, d) := scaled guess
  let e := if n / d < Nat.pow 2 53 then guess else guess + 1
  let (n, d) := scaled e
  let m := roundDiv n d
  if m < Nat.pow 2 53 then (m, e) else (Nat.pow 2 52, e + 1)

/-- The number nearest to `digits * 10 ^ exponent`. Sizes far outside the range need no arithmetic:
a binary digit is worth about 0.30103 decimal ones. -/
def ofDecimal (negative : Bool) (digits : Nat) (exponent : Int) : Binary64 :=
  let size : Int := exponent + digits.log2 * 30103 / 100000
  if digits = 0 || size < -330 then .finite negative 0 minExponent
  else if 330 < size then .infinite negative
  else
    let p := power 10 exponent
    let (m, e) := nearest (digits * p.1) p.2
    if maxExponent < e then .infinite negative else .finite negative m e

/-- The place of the first decimal digit of a fraction that is not zero, counted from the point:
`n` for a number from `10 ^ n` up to below `10 ^ (n + 1)`. -/
def place (num den : Nat) : Int :=
  if den ≤ num then (Nat.toDigits 10 (num / den)).length - 1
  else
    let n := (Nat.toDigits 10 (den / num)).length
    if den ≤ num * Nat.pow 10 (n - 1) then -(n - 1 : Int) else -n

/-- The fewest decimal digits, and their exponent, that `nearest` takes back to a number; of two
such decimals the nearer one, and of two equally near ones the greater one. Seventeen digits always
suffice. -/
def digits (mantissa : Nat) (exponent : Int) : Nat × Int :=
  let p := power 2 exponent
  let num := mantissa * p.1
  let den := p.2
  let top := place num den
  let back (d : Nat) (e : Int) : Bool :=
    match ofDecimal false d e with
    | .finite _ m q => m * (power 2 q).1 * den == num * (power 2 q).2
    | _ => false
  let attempt (count : Nat) : Option (Nat × Int) :=
    let e := top - count
    let t := power 10 e
    let n := num * t.2
    let d := den * t.1
    let low := n / d
    let near := if 2 * (n % d) < d then [low, low + 1] else [low + 1, low]
    (near.find? fun x => back x e).map fun x =>
      if x = Nat.pow 10 (count + 1) then (1, top + 1) else (x, e)
  ((List.range 18).findSome? attempt).getD (num, 0)

/-- Decimal digits and an exponent, written without an exponent. -/
def positional (digits : Nat) (exponent : Int) : String :=
  let ds := Nat.toDigits 10 digits
  if 0 ≤ exponent then String.ofList (ds ++ List.replicate exponent.toNat '0') ++ ".0"
  else
    let after := (-exponent).toNat
    let ds := List.replicate (after + 1 - ds.length) '0' ++ ds
    let whole := ds.length - after
    String.ofList (ds.take whole) ++ "." ++ String.ofList (ds.drop whole)

/-- The text of a number. -/
def text : Binary64 → String
  | .finite negative m e =>
    let sign := if negative then "-" else ""
    if m = 0 then sign ++ "0.0"
    else
      let (d, e) := digits m e
      sign ++ positional d e
  | .infinite negative => if negative then "-inf" else "inf"
  | .nan => "NaN"

end Binary64

end CommandShell.Number
