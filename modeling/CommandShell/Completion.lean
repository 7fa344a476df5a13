import CommandShell.Completion.Names
import CommandShell.Text.Length

/-!
# Completion

The first word of a line completes to the name of a command, followed by a space, and any later
word to the name of a file. Only what stands before the cursor counts. `Completion.cut` splits
that text in front of its last word; both parts together are the text, and the word holds no
blank.
-/

namespace CommandShell

/-- What may stand in the place of the text before the cursor, from an offset in bytes on. -/
structure Completion where
  start : Nat
  candidates : List Completion.Candidate
  deriving DecidableEq, Repr

namespace Completion

open Text (isBlank)

/-- Splits a text in front of its last word, which is empty if the text ends in a blank. -/
def cut (cs : List Char) : List Char × List Char :=
  let word := (cs.reverse.takeWhile (fun c => !isBlank c)).reverse
  ((cs.reverse.dropWhile (fun c => !isBlank c)).reverse, word)

theorem cut_append (cs : List Char) : (cut cs).1 ++ (cut cs).2 = cs := by
  simp [cut, ← List.reverse_append]

end Completion

namespace World

open Completion

/-- Completes a line at an offset in bytes. -/
def complete (w : World) (line : String) (pos : Nat) : Completion :=
  let typed := Text.takeBytes pos line.toList
  let (before, word) := cut typed
  if before.all Text.isBlank then
    ⟨Text.byteLength before,
      (w.commandNames (String.ofList word)).map fun name => ⟨name, name ++ " "⟩⟩
  else
    let x := Context.ofChars typed
    ⟨Text.byteLength typed - Text.byteLength x.typed, w.fileNames x⟩

end World

end CommandShell
