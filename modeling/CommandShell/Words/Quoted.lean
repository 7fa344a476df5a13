import CommandShell.Words.Reader

/-!
# Writing words as a line

`quote` writes a word so that it is read back as that one word, and `toLine` writes a list of words
with one space between two of them. A word of plain characters is written as it is; any other word
stands in single quotes, and a `'` in it is written as `'\''`: the quotes are closed, a quote is
escaped, and they are opened again.
-/

namespace CommandShell.Words

/-- The punctuation that has no meaning to the reader and needs no quotes. -/
def plainPunctuation : List Char :=
  ['-', '_', '.', '/', '=', ':', ',', '+', '@', '%', '^']

/-- Whether a character may stand in a word without quotes: an ASCII letter or digit, or plain
punctuation. -/
def isPlain (c : Char) : Bool :=
  c.isAlphanum || plainPunctuation.contains c

/-- A character inside single quotes. -/
def quoteChar (c : Char) : List Char :=
  if c = '\'' then ['\'', '\\', '\'', '\''] else [c]

/-- The written form of a word given by its characters. -/
def quoteChars (w : List Char) : List Char :=
  if !w.isEmpty && w.all isPlain then w else '\'' :: w.flatMap quoteChar ++ ['\'']

/-- The written form of a word. -/
def quote (w : String) : String :=
  String.ofList (quoteChars w.toList)

/-- The line that holds the given words. -/
def toLine (ws : List String) : String :=
  " ".intercalate (ws.map quote)

end CommandShell.Words
