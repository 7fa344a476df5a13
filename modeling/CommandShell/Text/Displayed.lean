import CommandShell.Text.Unshown

/-!
# Texts in double quotes

`display` shows a text between double quotes, so that one can see where it starts and ends:
quotes, backslashes, NUL, tabs and the ends of lines are written with a backslash, and a character
without a mark of its own by its number.
-/

namespace CommandShell.Text

/-- A number in base sixteen, without leading zeros. -/
def hex (n : Nat) : List Char :=
  Nat.toDigits 16 n

/-- A character as it is shown between double quotes. -/
def displayChar (c : Char) : List Char :=
  if c = '\x00' then ['\\', '0']
  else if c = '\t' then ['\\', 't']
  else if c = '\r' then ['\\', 'r']
  else if c = '\n' then ['\\', 'n']
  else if c = '\\' then ['\\', '\\']
  else if c = '"' then ['\\', '"']
  else if isUnshown c then ['\\', 'u', '\x7b'] ++ hex c.toNat ++ ['\x7d']
  else [c]

/-- A text between double quotes. -/
def display (s : String) : String :=
  String.ofList ('"' :: s.toList.flatMap displayChar ++ ['"'])

end CommandShell.Text
