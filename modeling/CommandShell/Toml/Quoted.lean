import CommandShell.Toml.Parse

/-!
# Strings in a document

A basic string stands in double quotes and has escapes, a literal string stands in single quotes
and has none. In three quotes either kind goes over several lines; the end of a line right after
the opening quotes is dropped, every other one counts as a line feed, and up to two quotes may
stand right before the closing ones.
-/

namespace CommandShell.Toml.Parse

/-- The value of a hexadecimal digit. -/
def hexDigit? (c : Char) : Option Nat :=
  if c.isDigit then some (c.toNat - 0x30)
  else if 'a' ≤ c ∧ c ≤ 'f' then some (c.toNat - 0x57)
  else if 'A' ≤ c ∧ c ≤ 'F' then some (c.toNat - 0x37)
  else none

/-- Reads a digit in base sixteen. -/
def hexDigit : Parse Nat
  | [] => none
  | c :: cs => (hexDigit? c).map (·, cs)

/-- Reads so many digits in base sixteen on top of a number. -/
def hexNumber (n : Nat) : (count : Nat) → Parse Nat
  | 0 => pure n
  | count + 1 => do
    let d ← hexDigit
    hexNumber (16 * n + d) count

/-- Reads the number of a character. -/
def codePoint (count : Nat) : Parse Char := do
  let n ← hexNumber 0 count
  if n.isValidChar then return Char.ofNat n else failure

/-- The escapes of one character. -/
def escapes : List (Char × Char) :=
  [('b', '\x08'), ('f', '\x0c'), ('n', '\n'), ('r', '\r'), ('t', '\t'), ('\\', '\\'), ('"', '"')]

/-- Reads an escape. -/
def escaped : Parse Char := do
  char '\\'
  let c ← charOf fun _ => true
  if c = 'u' then codePoint 4
  else if c = 'U' then codePoint 8
  else
    match escapes.lookup c with
    | some e => return e
    | none => failure

/-- Reads a character that stands in a basic string as it is. -/
def basicChar : Parse Char :=
  charOf fun c => isShown c && c != '"' && c != '\\'

/-- Reads a basic string on one line. -/
def basicString : Parse String := do
  char '"'
  let cs ← many (basicChar <|> escaped)
  char '"'
  return String.ofList cs

/-- Reads a character of a literal string. -/
def literalChar : Parse Char :=
  charOf fun c => isShown c && c != '\''

/-- Reads a literal string on one line. -/
def literalString : Parse String := do
  char '\''
  let cs ← many literalChar
  char '\''
  return String.ofList cs

/-- Reads a backslash at the end of a line, with all blanks and ends of lines that follow. -/
def continuedLine : Parse (List Char) := do
  char '\\'
  blanks
  newline
  let _ ← many (newline <|> do let _ ← charOf fun c => c = ' ' || c = '\t')
  return []

/-- Reads one or two quotes among the lines of a string. -/
def innerQuotes (quote : Char) : Parse (List Char) :=
  fun cs =>
    let (quotes, rest) := (cs.takeWhile (· = quote), cs.dropWhile (· = quote))
    if quotes.length = 1 || quotes.length = 2 then some (quotes, rest) else none

/-- Reads the three closing quotes, with the quotes of the string right before them. -/
def closingQuotes (quote : Char) : Parse (List Char) :=
  fun cs =>
    let count := (cs.takeWhile (· = quote)).length
    let inner := min (count - 3) 2
    if count < 3 then none else some (cs.take inner, cs.drop (inner + 3))

/-- Reads a string in three quotes, of which `piece` reads what is not a quote. -/
def multiline (quote : Char) (piece : Parse (List Char)) : Parse String := do
  char quote
  char quote
  char quote
  let _ ← optional newline
  let pieces ← many (piece <|> innerQuotes quote)
  let last ← closingQuotes quote
  return String.ofList (pieces.flatten ++ last)

/-- Reads the end of a line inside a string, as a line feed. -/
def lineFeed : Parse (List Char) := do
  newline
  return ['\n']

/-- Reads a basic string of several lines. -/
def multilineBasic : Parse String :=
  multiline '"' (((fun c => [c]) <$> basicChar) <|> continuedLine
    <|> ((fun c => [c]) <$> escaped) <|> lineFeed)

/-- Reads a literal string of several lines. -/
def multilineLiteral : Parse String :=
  multiline '\'' (((fun c => [c]) <$> literalChar) <|> lineFeed)

/-- Reads a string of any kind. -/
def string : Parse String :=
  multilineBasic <|> basicString <|> multilineLiteral <|> literalString

end CommandShell.Toml.Parse
