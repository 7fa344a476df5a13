/-!
# Reading a text piece by piece

A `Parse` reads a piece from the front of a text and leaves the rest, or fails. Pieces are read one
after the other in `do` notation, and `p <|> q` reads with `q` what `p` fails to read.
-/

namespace CommandShell.Toml

/-- Reads a piece from the front of a text, or fails. -/
abbrev Parse := StateT (List Char) Option

namespace Parse

/-- Reads a character of a class. -/
def charOf (p : Char → Bool) : Parse Char
  | [] => none
  | c :: cs => if p c then some (c, cs) else none

/-- Reads one certain character. -/
def char (c : Char) : Parse Unit := do
  let _ ← charOf (· = c)

/-- Reads a certain text. -/
def word (s : String) : Parse Unit :=
  s.toList.forM char

/-- Reads all characters of a class that come next, perhaps none. -/
def charsOf (p : Char → Bool) : Parse (List Char) :=
  fun cs => some (cs.takeWhile p, cs.dropWhile p)

/-- Succeeds at the end of the text. -/
def done : Parse Unit
  | [] => some ((), [])
  | _ :: _ => none

/-- Reads pieces until one fails, at most as many as `bound` has characters. -/
def manyWithin {α : Type} (p : Parse α) : (bound : List Char) → Parse (List α)
  | [], cs => some ([], cs)
  | _ :: bound, cs =>
    match p cs with
    | none => some ([], cs)
    | some (a, rest) =>
      match manyWithin p bound rest with
      | none => none
      | some (as, rest) => some (a :: as, rest)

/-- Reads pieces until one fails. Each piece takes a character at least, so there are no more
pieces than characters. -/
def many {α : Type} (p : Parse α) : Parse (List α) :=
  fun cs => manyWithin p cs cs

/-- Reads one or more pieces with a separator between two of them. -/
def separated {α : Type} (p : Parse α) (sep : Parse Unit) : Parse (List α) := do
  let a ← p
  let as ← many (sep *> p)
  return a :: as

end Parse

/-! ## Blanks, ends of lines and comments -/

namespace Parse

/-- Reads spaces and tabs. -/
def blanks : Parse Unit := do
  let _ ← charsOf fun c => c = ' ' || c = '\t'

/-- Reads the end of a line. -/
def newline : Parse Unit :=
  char '\n' <|> word "\r\n"

/-- Whether a character may stand in a text as it is: all but the control characters, with the tab
allowed. -/
def isShown (c : Char) : Bool :=
  c = '\t' || (0x20 ≤ c.toNat && c.toNat != 0x7F)

/-- Reads a comment up to the end of its line. -/
def comment : Parse Unit := do
  char '#'
  let _ ← charsOf isShown

/-- Reads the end of a line or of the text. -/
def lineEnd : Parse Unit :=
  newline <|> done

/-- Reads what may follow on a line. -/
def lineRest : Parse Unit := do
  blanks
  let _ ← optional comment
  lineEnd

/-- Reads blanks, comments and ends of lines. -/
def gap : Parse Unit := do
  blanks
  let _ ← many ((comment <|> newline) *> blanks)

end Parse

end CommandShell.Toml
