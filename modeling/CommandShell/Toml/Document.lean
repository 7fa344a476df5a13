import CommandShell.Toml.Scalar

/-!
# Documents

A document is a list of expressions: keys with values, and headers that tell the table to which
the keys after them belong. `Document.expressions` reads them and `Document.assemble` makes the
table of the whole document, or refuses expressions that define a thing twice. Arrays and tables
in braces stand in one another at most `maxDepth` deep, and a key has fewer than `maxParts` parts.
-/

namespace CommandShell.Toml

/-- How deep values may stand in one another. -/
def maxDepth : Nat := 79

/-- The number of parts that is too great for a key. -/
def maxParts : Nat := 80

/-- A key with a value, or a header. -/
inductive Expression where
  | entry (path : List String) (value : Value)
  /-- The header of a table; one in double brackets adds a further table of that name. -/
  | header (path : List String) (further : Bool)

namespace Parse

/-- Whether a character may stand in a key without quotes. -/
def isBare (c : Char) : Bool :=
  c.isAlphanum || c = '-' || c = '_'

/-- Reads one part of a key. -/
def keyPart : Parse String :=
  basicString <|> literalString <|> do
    let c ← charOf isBare
    let cs ← charsOf isBare
    return String.ofList (c :: cs)

/-- Reads a key with the blanks around its parts. -/
def key : Parse (List String) := do
  let parts ← separated (blanks *> keyPart <* blanks) (char '.')
  if parts.length < maxParts then return parts else failure

/-- Reads an array, given how its items are read. -/
def arrayOf (item : Parse Value) : Parse Value := do
  char '['
  let items ← optional (separated (gap *> item <* gap) (char ',') <* optional (char ','))
  gap
  char ']'
  return .array (items.getD [])

/-- Reads a table in braces, given how its values are read. -/
def braces (item : Parse Value) : Parse Value := do
  char '\x7b'
  let entry : Parse (List String × Value) := do
    let path ← key
    char '='
    blanks
    let v ← item
    blanks
    return (path, v)
  let entries ← optional (separated entry (char ','))
  blanks
  char '\x7d'
  match Table.insertAll [] (entries.getD []) with
  | some t => return .table .inline t
  | none => failure

/-- Reads a value in which others may stand so many levels deep. -/
def value : (depth : Nat) → Parse Value
  | 0 => scalar
  | depth + 1 => arrayOf (value depth) <|> braces (value depth) <|> scalar

/-- Reads a key with its value, up to the end of the line. -/
def entry : Parse Expression := do
  let path ← key
  char '='
  blanks
  let v ← value maxDepth
  lineRest
  return .entry path v

/-- Reads a header, up to the end of the line. -/
def header : Parse Expression :=
  (do
    word "[["
    let path ← key
    word "]]"
    lineRest
    return .header path true) <|> (do
    char '['
    let path ← key
    char ']'
    lineRest
    return .header path false)

/-- Reads a line that may hold an expression. -/
def line : Parse (Option Expression) :=
  (do comment; lineEnd; return none) <|> (some <$> header) <|> (do newline; return none)
    <|> (some <$> entry)

/-- Reads all expressions of a text, which may start with a byte order mark. -/
def expressions : Parse (List Expression) := do
  let _ ← optional (char '\uFEFF')
  blanks
  let lines ← many (line <* blanks)
  done
  return lines.filterMap id

end Parse

namespace Document

/-- The expressions of a text. -/
def expressions (text : String) : Option (List Expression) :=
  (Parse.expressions text.toList).map Prod.fst

/-- A document of which some expressions have been entered. The table of the last header is kept
apart until it is complete. -/
structure Partial where
  top : Table := []
  /-- The path of the last header and whether it stands in double brackets. -/
  header? : Option (List String × Bool) := none
  /-- The entries since the last header. -/
  current : Table := []

/-- Enters the table of the last header into the document. -/
def Partial.close (p : Partial) : Option Table :=
  match p.header? with
  | none => some p.current
  | some (path, true) => p.top.extend path p.current
  | some (path, false) => p.top.define path p.current

/-- Enters an expression. -/
def Partial.step (p : Partial) : Expression → Option Partial
  | .entry path v => (p.current.insert path v).map fun t => { p with current := t }
  | .header path true => p.close.map fun top => ⟨top, some (path, true), []⟩
  | .header path false => p.close.bind fun top =>
    (top.take path).map fun (top, inner) => ⟨top, some (path, false), inner⟩

/-- The table that expressions make. -/
def assemble (es : List Expression) : Option Table :=
  (es.foldlM Partial.step {}).bind Partial.close

/-- The table of a text, unless the text is no document. -/
def ofText? (text : String) : Option Table :=
  (expressions text).bind assemble

end Document

end CommandShell.Toml
