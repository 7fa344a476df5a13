import CommandShell.Words.Reader

/-!
# The text that a file name completes

A file name completes the text since the quote that is still open, or, outside quotes, the text
since the last break character that no backslash escapes. `Context.ofChars` finds this text and
how it is quoted; `Context.path` reads it as a path, and `Context.write` writes a path so that it
can stand in its place.
-/

namespace CommandShell.Completion

open Words (Quoting)

/-- How the end of a line is quoted, found by reading the line from its start. -/
structure QuoteScan where
  quoting : Quoting := .bare
  /-- The last character was a backslash that escapes the next one. -/
  escaping : Bool := false
  /-- What follows the open quote, its latest character first. -/
  quoted : List Char := []
  deriving DecidableEq, Repr

/-- Takes the next character. Unlike in words, a backslash in double quotes escapes any character.
-/
def QuoteScan.step (s : QuoteScan) (c : Char) : QuoteScan :=
  match s.quoting, s.escaping with
  | .bare, true => { s with escaping := false }
  | .bare, false =>
    if c = '"' then { quoting := .double }
    else if c = '\'' then { quoting := .single }
    else { s with escaping := c = '\\' }
  | .double, true => { s with escaping := false, quoted := c :: s.quoted }
  | .double, false =>
    if c = '"' then {} else { s with escaping := c = '\\', quoted := c :: s.quoted }
  | .single, _ => if c = '\'' then {} else { s with quoted := c :: s.quoted }

/-- The characters that end a path outside quotes. -/
def breakChars : List Char :=
  [' ', '\t', '\n', '"', '\\', '\'', '`', '@', '$', '>', '<', '=', ';', '|', '&', '\x7b', '(',
    '\x00']

/-- The characters that are escaped in double quotes. -/
def doubleQuoteChars : List Char :=
  ['"', '$', '\\', '`']

/-- The text since the last break character without a backslash before it, in front of a text that
is already known to belong to it. The line is given backwards. -/
def sinceBreak (known : List Char) : List Char → List Char
  | [] => known
  | [c] => if breakChars.contains c then known else c :: known
  | c :: d :: rest =>
    if !breakChars.contains c then sinceBreak (c :: known) (d :: rest)
    else if d = '\\' then sinceBreak (d :: c :: known) rest
    else known

/-- The text that a file name completes. -/
structure Context where
  quoting : Quoting
  /-- The text as it stands in the line. -/
  typed : List Char
  deriving DecidableEq, Repr

namespace Context

/-- The text at the end of a line. -/
def ofChars (cs : List Char) : Context :=
  let scan := cs.foldl QuoteScan.step {}
  match scan.quoting with
  | .bare => ⟨.bare, sinceBreak [] cs.reverse⟩
  | q => ⟨q, scan.quoted.reverse⟩

/-- A text without its escaping backslashes. -/
def unescape : List Char → List Char
  | [] => []
  | '\\' :: c :: rest => c :: unescape rest
  | ['\\'] => []
  | c :: rest => c :: unescape rest

/-- A text with a backslash before each of some characters. -/
def escape (special : List Char) (cs : List Char) : List Char :=
  cs.flatMap fun c => if special.contains c then ['\\', c] else [c]

/-- The path that has been typed so far. -/
def path (x : Context) : List Char :=
  match x.quoting with
  | .single => x.typed
  | .bare | .double => unescape x.typed

/-- A path as it is written in the place of the typed text. -/
def write (x : Context) (path : List Char) : List Char :=
  match x.quoting with
  | .single => path
  | .double => escape doubleQuoteChars path
  | .bare => escape breakChars path

end Context

end CommandShell.Completion
