import CommandShell.OsError
import CommandShell.Text.Utf8

/-!
# Paths

A path is a sequence of bytes; the byte `/` separates its parts. `Path.split` tells the parts, and
whether the path starts at the root and whether it ends in a separator, which demands a directory.
`Path.parse` refuses the texts that the system does not take as a path.
-/

namespace CommandShell

/-- A path taken apart. -/
structure Path where
  /-- The path starts at the root. -/
  absolute : Bool
  /-- The names between the separators, with `.` and `..` among them. -/
  parts : List Bytes
  /-- The path ends in a separator. -/
  slash : Bool
  deriving DecidableEq, Repr

namespace Path

/-- The byte that separates the parts of a path. -/
def separator : UInt8 := 0x2F

/-- The part that stands for the directory itself. -/
def here : Bytes := [0x2E]

/-- The part that stands for the parent directory. -/
def up : Bytes := [0x2E, 0x2E]

/-- The pieces of a sequence between the occurrences of a byte, empty pieces included. -/
abbrev pieces (sep : UInt8) (b : Bytes) : List Bytes :=
  b.splitOn sep

/-- Takes a path apart. -/
def split (b : Bytes) : Path where
  absolute := b.head? = some separator
  parts := (pieces separator b).filter (fun p => !p.isEmpty)
  slash := b.getLast? = some separator

/-- The longest path that the system takes, in bytes. -/
def maxLength : Nat := 4095

/-- The longest name that a directory holds, in bytes. -/
def maxNameLength : Nat := 255

/-- Takes a path apart, unless the system refuses it. -/
def parse (b : Bytes) : Except OsError Path :=
  if b.contains 0 then .error .nulInPath
  else if b.isEmpty then .error (.errno .noEntry)
  else if maxLength < b.length then .error (.errno .nameTooLong)
  else .ok (split b)

/-- The path of a name below a directory, with one separator between the two. -/
def join (dir name : Bytes) : Bytes :=
  if dir.isEmpty || dir.getLast? = some separator then dir ++ name else dir ++ separator :: name

end Path

end CommandShell
