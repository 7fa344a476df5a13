import CommandShell.Toml.Quoted
import CommandShell.Toml.Value

/-!
# Numbers, dates and truth values

An underscore may stand between two digits of a number. A decimal number has no leading zeros;
other bases have the marks `0x`, `0o` and `0b` and no sign. Integers have 64 bits with a sign. A
date may be followed by a time of day, and that by its distance from universal time; the parts are
checked against the calendar and the clock.
-/

namespace CommandShell.Toml.Parse

open Number (Binary64)

/-- The value of a digit in a base of at most sixteen. -/
def digitIn? (base : Nat) (c : Char) : Option Nat :=
  (hexDigit? c).filter (· < base)

/-- Whether a character is a digit in a base. -/
def isDigitIn (base : Nat) (c : Char) : Bool :=
  (digitIn? base c).isSome

/-- Reads one or more digits, with single underscores between them, which are dropped. -/
def digits (base : Nat) : Parse (List Char) := do
  let c ← charOf (isDigitIn base)
  let cs ← many (charOf (isDigitIn base) <|> (char '_' *> charOf (isDigitIn base)))
  return c :: cs

/-- The number that digits stand for in a base. -/
def valueOf (base : Nat) (cs : List Char) : Nat :=
  cs.foldl (fun n c => base * n + (hexDigit? c).getD 0) 0

/-- Reads a sign, and tells whether it is a minus. -/
def sign : Parse Bool := do
  let s ← optional (charOf fun c => c = '+' || c = '-')
  return s = some '-'

/-- Reads an unsigned decimal number: a zero, or digits that start with none. -/
def decimal : Parse (List Char) := do
  let c ← charOf Char.isDigit
  if c = '0' then return [c]
  else do
    let cs ← many (charOf Char.isDigit <|> (char '_' *> charOf Char.isDigit))
    return c :: cs

/-! ## Integers -/

/-- The least integer of a document. -/
def leastInteger : Int := -0x8000000000000000

/-- The greatest integer of a document. -/
def greatestInteger : Int := 0x7FFFFFFFFFFFFFFF

/-- Gives an integer, if it is in range. -/
def checkInteger (n : Int) : Parse Value :=
  if leastInteger ≤ n ∧ n ≤ greatestInteger then pure (.integer n) else failure

/-- Reads an integer with the mark of its base. -/
def markedInteger (mark : String) (base : Nat) : Parse Value := do
  word mark
  let ds ← digits base
  checkInteger (valueOf base ds)

/-- Reads an integer. -/
def integer : Parse Value :=
  markedInteger "0x" 16 <|> markedInteger "0o" 8 <|> markedInteger "0b" 2 <|> do
    let negative ← sign
    let n : Int := valueOf 10 (← decimal)
    checkInteger (if negative then -n else n)

/-! ## Floating-point numbers -/

/-- Reads the digits after the point. -/
def fraction : Parse (List Char) := do
  char '.'
  digits 10

/-- Reads the power of ten by which a number is multiplied. -/
def exponent : Parse Int := do
  let _ ← charOf fun c => c = 'e' || c = 'E'
  let negative ← sign
  let n : Int := valueOf 10 (← digits 10)
  return if negative then -n else n

/-- Reads a number with a fraction or an exponent. It may be too far below zero for a finite
number, but not too far above. -/
def decimalFloat : Parse Value := do
  let negative ← sign
  let whole ← decimal
  let (after, e) ←
    (do
      let after ← fraction
      let e ← optional exponent
      return (after, e.getD 0)) <|> (do
      let e ← exponent
      return ([], e))
  let x := Binary64.ofDecimal negative (valueOf 10 (whole ++ after)) (e - after.length)
  if x = .infinite false then failure else return .float x

/-- Reads an infinite number, or what is no number. -/
def specialFloat : Parse Value := do
  let negative ← sign
  (do word "inf"; return .float (.infinite negative)) <|> (do word "nan"; return .float .nan)

/-! ## Dates and times -/

/-- Reads a number of so many decimal digits within bounds. -/
def numberWithin (count low high : Nat) : Parse Nat := do
  let cs ← (List.replicate count Char.isDigit).mapM charOf
  let n := valueOf 10 cs
  if low ≤ n ∧ n ≤ high then return n else failure

/-- How many days a month has. -/
def daysIn (year month : Nat) : Nat :=
  if month = 2 then (if year % 4 = 0 ∧ (year % 100 ≠ 0 ∨ year % 400 = 0) then 29 else 28)
  else if month = 4 ∨ month = 6 ∨ month = 9 ∨ month = 11 then 30
  else 31

/-- Reads a date. -/
def date : Parse Date := do
  let year ← numberWithin 4 0 9999
  char '-'
  let month ← numberWithin 2 1 12
  char '-'
  let day ← numberWithin 2 1 (daysIn year month)
  return ⟨year, month, day⟩

/-- Reads a time of day. A minute may have a leap second. -/
def timeOfDay : Parse TimeOfDay := do
  let hour ← numberWithin 2 0 23
  char ':'
  let minute ← numberWithin 2 0 59
  char ':'
  let second ← numberWithin 2 0 60
  let fraction ← optional (do
    char '.'
    let c ← charOf Char.isDigit
    let cs ← charsOf Char.isDigit
    return c :: cs)
  return ⟨hour, minute, second, fraction.getD []⟩

/-- Reads the minutes by which a time is ahead of universal time. -/
def offset : Parse Int :=
  (do
    let _ ← charOf fun c => c = 'Z' || c = 'z'
    return 0) <|> (do
    let sign ← charOf fun c => c = '+' || c = '-'
    let hours ← numberWithin 2 0 23
    char ':'
    let minutes ← numberWithin 2 0 59
    let distance : Int := 60 * hours + minutes
    return if sign = '-' then -distance else distance)

/-- Reads a time of day after a date, with its distance from universal time if that is given. -/
def timeAfterDate : Parse (TimeOfDay × Option Int) := do
  let _ ← charOf fun c => c = 'T' || c = 't' || c = ' '
  let time ← timeOfDay
  let distance ← optional offset
  return (time, distance)

/-- Reads a date, a time of day or both. -/
def datetime : Parse Value :=
  (do
    let day ← date
    match ← optional timeAfterDate with
    | some (time, distance) => return .datetime (.dateTime day time distance)
    | none => return .datetime (.date day)) <|> (do
    let time ← timeOfDay
    return .datetime (.time time))

/-! ## Values without parts -/

/-- Reads a truth value. -/
def boolean : Parse Value :=
  (do word "true"; return .boolean true) <|> (do word "false"; return .boolean false)

/-- Reads a value without parts. -/
def scalar : Parse Value :=
  (Value.string <$> string) <|> datetime <|> decimalFloat <|> specialFloat <|> integer <|> boolean

end CommandShell.Toml.Parse
