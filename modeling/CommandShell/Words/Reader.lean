import CommandShell.Text.Blank

/-!
# Reading words from a line

A line is read one character at a time. The reader holds the finished words, the word that is
being read and how that word is quoted just now; `Reader.step` takes it over one character and
`Reader.finish` closes it at the end of the line, which ends every open quote.

Unquoted blanks separate words. A backslash outside quotes stands for the character after it.
Single quotes keep all they enclose. In double quotes a backslash escapes `$`, `\` and `"` only,
and a `"` that follows an odd number of `\"` since the quotes were opened is dropped instead of
closing them. Pieces with no blank between them form one word, so `''` is an empty word.
-/

namespace CommandShell.Words

open Text (isBlank)

/-- How the characters of the current word are quoted. -/
inductive Quoting where
  | bare
  | single
  | double
  deriving DecidableEq, Repr

/-- The state of reading a line. -/
structure Reader where
  /-- The finished words, the latest one first. -/
  done : List (List Char) := []
  /-- The word being read, its latest character first, or nothing between two words. -/
  word : Option (List Char) := none
  /-- The quotes that are open. -/
  quoting : Quoting := .bare
  /-- Flipped by every `\"` in double quotes; while it is set, a `"` does not close them. -/
  swallow : Bool := false
  /-- A backslash has been read whose effect depends on the next character. -/
  escaping : Bool := false
  deriving DecidableEq, Repr

namespace Reader

/-- A word begins here unless one is being read already. -/
def begin (r : Reader) : Reader :=
  { r with word := some (r.word.getD []) }

/-- Adds a character to the current word. -/
def push (r : Reader) (c : Char) : Reader :=
  { r with word := some (c :: r.word.getD []) }

/-- Finishes the current word, if there is one. -/
def endWord (r : Reader) : Reader :=
  match r.word with
  | none => r
  | some w => { done := w.reverse :: r.done }

/-- Takes a character that stands outside quotes. -/
def stepBare (r : Reader) (c : Char) : Reader :=
  if isBlank c then r.endWord
  else if c = '\\' then { r.begin with escaping := true }
  else if c = '\'' then { r.begin with quoting := .single }
  else if c = '"' then { r.begin with quoting := .double, swallow := false }
  else r.push c

/-- Takes a character that stands in double quotes and is not the second half of an escape. -/
def stepDouble (r : Reader) (c : Char) : Reader :=
  if c = '\\' then { r with escaping := true }
  else if c = '"' then (if r.swallow then r else { r with quoting := .bare })
  else r.push c

/-- The characters that a backslash escapes in double quotes. -/
def isDoubleEscape (c : Char) : Bool :=
  c = '$' || c = '\\' || c = '"'

/-- Takes the next character of the line. -/
def step (r : Reader) (c : Char) : Reader :=
  match r.quoting, r.escaping with
  | .bare, true => { r.push c with escaping := false }
  | .bare, false => r.stepBare c
  | .single, _ => if c = '\'' then { r with quoting := .bare } else r.push c
  | .double, true =>
    if isDoubleEscape c then
      { r.push c with escaping := false, swallow := r.swallow ^^ (c = '"') }
    else
      { (r.push '\\').push c with escaping := false }
  | .double, false => r.stepDouble c

/-- Takes the characters of a text in order. -/
def run (r : Reader) (cs : List Char) : Reader :=
  cs.foldl step r

/-- The words read once the line ends. A backslash that waits in double quotes stays in the word;
one that waits outside quotes is dropped. -/
def finish (r : Reader) : List (List Char) :=
  let r := if r.quoting = .double && r.escaping then r.push '\\' else r
  r.endWord.done.reverse

@[simp] theorem run_nil (r : Reader) : r.run [] = r := rfl

@[simp] theorem run_cons (r : Reader) (c : Char) (cs : List Char) :
    r.run (c :: cs) = (r.step c).run cs := rfl

@[simp] theorem run_append (r : Reader) (cs ds : List Char) :
    r.run (cs ++ ds) = (r.run cs).run ds :=
  List.foldl_append

end Reader

/-- The words of a sequence of characters. -/
def ofChars (cs : List Char) : List (List Char) :=
  (Reader.run {} cs).finish

/-- The words of a line. -/
def ofLine (line : String) : List String :=
  (ofChars line.toList).map String.ofList

end CommandShell.Words
