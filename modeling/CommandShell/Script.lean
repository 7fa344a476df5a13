import CommandShell.Text.Utf8

/-!
# The first line of a script

A file that is run and is no program names its interpreter in its first line, after the mark `#!`:
a path and, after blanks, one argument at most. Only the first bytes of the file are read.
`Script.interpreter?` tells what the line names; a line that may go on behind what is read names no
interpreter, unless the path of the interpreter ends before.
-/

namespace CommandShell.Script

/-- The blanks of the line. -/
def isGap (b : UInt8) : Bool := b = 0x20 || b = 0x09

/-- How many bytes of a script are read. -/
def headLength : Nat := 256

/-- What is read of a script. A shorter one is read as if NUL bytes followed. -/
def head (b : Bytes) : Bytes :=
  let read := b.take headLength
  read ++ List.replicate (headLength - read.length) 0

theorem length_head (b : Bytes) : (head b).length = headLength := by
  simp only [head, List.length_append, List.length_take, List.length_replicate]
  omega

/-- What the first line says after its mark: all up to the end of the line or, if that is not read,
all but the last byte. In that case the name of the interpreter has to end in what is read. -/
def line? (b : Bytes) : Option Bytes :=
  match head b with
  | 0x23 :: 0x21 :: rest =>
    if rest.contains 0x0A then some (rest.takeWhile (· != 0x0A))
    else if (rest.dropWhile isGap).any fun b => isGap b || b = 0 then some rest.dropLast
    else none
  | _ => none

/-- The interpreter that the first line names, and the argument it may give it. Either ends where a
NUL byte stands. -/
def interpreter? (b : Bytes) : Option (Bytes × List Bytes) :=
  match line? b with
  | none => none
  | some line =>
    match (line.reverse.dropWhile isGap).reverse.dropWhile isGap with
    | [] => none
    | words =>
      let isInName (b : UInt8) : Bool := !isGap b && b != 0
      let argument :=
        match words.dropWhile isInName with
        | [] | 0 :: _ => []
        | gap => [(gap.dropWhile isGap).takeWhile (· != 0)]
      some (words.takeWhile isInName, argument)

end CommandShell.Script
