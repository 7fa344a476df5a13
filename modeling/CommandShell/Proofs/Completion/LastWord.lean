import CommandShell.Proofs.Completion.Accepted
import CommandShell.Proofs.Text.Slices
import Mathlib.Data.List.Induction

/-!
# The word at the cursor

A cursor is an offset in bytes, and so is the place where the word in front of it begins. The scan
goes back from the cursor to the last blank and adds the length of that blank, which takes one to
three bytes. A part of the line cannot be taken within a character; `wordAt?` and
`World.completeAt?` have no result then, and at a cursor between two characters they have one.

* `wordStart_eq` — the scan ends where the text is cut in front of its last word.
* `wordAt?_append`, `isLastWord_append` — which word the scan finds.
* `World.completeAt?_append` — completion takes no part of the line that is not there.
* `World.isSome_completeAt?_iff` — but it would within a character.
* `World.complete_at_boundary` — all of this, and what is completed, for any line and cursor.
-/

namespace CommandShell

open Text (isBlank byteLength AtBoundary slice? atBoundary_iff slice?_append slice?_zero_append)

namespace Completion

/-! ## The scan -/

/-- The characters of a text with the offsets in bytes at which they begin, the first one at `i`. -/
def offsetsFrom : Nat → List Char → List (Nat × Char)
  | _, [] => []
  | i, c :: cs => (i, c) :: offsetsFrom (i + c.utf8Size) cs

/-- Where the last blank of a text ends, in bytes, or the start of a text without blanks. -/
def wordStart (cs : List Char) : Nat :=
  match (offsetsFrom 0 cs).reverse.find? fun place => isBlank place.2 with
  | some (i, c) => i + c.utf8Size
  | none => 0

/-- The word in front of a cursor and where it begins, unless a part of the line is not there. -/
def wordAt? (line : String) (pos : Nat) : Option (Nat × String) := do
  let typed ← slice? line 0 pos
  let start := wordStart typed.toList
  let word ← slice? line start pos
  some (start, word)

/-- The word in front of a cursor holds no blank, and it begins the line or follows a blank. -/
structure IsLastWord (line : String) (pos start : Nat) (word : String) : Prop where
  start_le : start ≤ pos
  boundary : AtBoundary line start
  slice : slice? line start pos = some word
  unbroken : ∀ c ∈ word.toList, isBlank c = false
  front : start = 0 ∨
    ∃ (before : String) (c : Char),
      slice? line 0 start = some (before.push c) ∧ isBlank c = true

variable {cs : List Char} {c : Char}

theorem offsetsFrom_append (i : Nat) (cs ds : List Char) :
    offsetsFrom i (cs ++ ds) = offsetsFrom i cs ++ offsetsFrom (i + byteLength cs) ds := by
  induction cs generalizing i with
  | nil => rfl
  | cons c cs ih =>
    have hlength : byteLength (c :: cs) = c.utf8Size + byteLength cs := rfl
    rw [List.cons_append, offsetsFrom, offsetsFrom, ih, hlength, Nat.add_assoc, List.cons_append]

/-- The last blank of a text that ends in a blank is that one. -/
theorem wordStart_concat_blank (hc : isBlank c = true) :
    wordStart (cs ++ [c]) = byteLength (cs ++ [c]) := by
  rw [wordStart, offsetsFrom_append, Text.byteLength_append]
  simp [offsetsFrom, hc, byteLength]

theorem wordStart_concat (hc : isBlank c = false) : wordStart (cs ++ [c]) = wordStart cs := by
  rw [wordStart, wordStart, offsetsFrom_append]
  simp [offsetsFrom, hc]

theorem cut_concat_blank (hc : isBlank c = true) : cut (cs ++ [c]) = (cs ++ [c], []) := by
  simp [cut, hc]

theorem cut_concat (hc : isBlank c = false) :
    cut (cs ++ [c]) = ((cut cs).1, (cut cs).2 ++ [c]) := by
  simp [cut, hc]

/-- The scan over bytes ends where the characters are cut. -/
theorem wordStart_eq (cs : List Char) : wordStart cs = byteLength (cut cs).1 := by
  -- From the end of the text, which is where both of them begin.
  induction cs using List.reverseRecOn with
  | nil => rfl
  | append_singleton cs c ih =>
    cases hc : isBlank c with
    | true => rw [wordStart_concat_blank hc, cut_concat_blank hc]
    | false => rw [wordStart_concat hc, cut_concat hc, ih]

theorem isBlank_of_mem_cut : ∀ c ∈ (cut cs).2, isBlank c = false := by
  intro c hc
  rw [cut, List.mem_reverse] at hc
  simpa using List.all_eq_true.1 List.all_takeWhile c hc

/-- What stands in front of the last word ends in a blank, or nothing stands there. -/
theorem cut_fst (cs : List Char) :
    (cut cs).1 = [] ∨ ∃ before c, (cut cs).1 = before ++ [c] ∧ isBlank c = true := by
  induction cs using List.reverseRecOn with
  | nil => exact Or.inl rfl
  | append_singleton cs c ih =>
    cases hc : isBlank c with
    | true =>
      rw [cut_concat_blank hc]
      exact Or.inr ⟨cs, c, rfl, hc⟩
    | false =>
      rw [cut_concat hc]
      exact ih

/-! ## A line that has been typed up to the cursor -/

/-- What stands in front of the last word of a text. -/
def front (typed : String) : String :=
  String.ofList (cut typed.toList).1

/-- The last word of a text. -/
def lastWord (typed : String) : String :=
  String.ofList (cut typed.toList).2

theorem front_append_lastWord (typed : String) : front typed ++ lastWord typed = typed := by
  rw [front, lastWord, ← String.ofList_append, cut_append, String.ofList_toList]

theorem utf8ByteSize_front (typed : String) :
    (front typed).utf8ByteSize = byteLength (cut typed.toList).1 :=
  Text.utf8ByteSize_ofList _

theorem slice?_front (typed rest : String) :
    slice? (typed ++ rest) 0 (front typed).utf8ByteSize = some (front typed) := by
  have hslice := slice?_zero_append (front typed) (lastWord typed ++ rest)
  rwa [← String.append_assoc, front_append_lastWord] at hslice

theorem slice?_lastWord (typed rest : String) :
    slice? (typed ++ rest) (front typed).utf8ByteSize typed.utf8ByteSize =
      some (lastWord typed) := by
  have hslice := slice?_append (front typed) (lastWord typed) rest
  rwa [front_append_lastWord] at hslice

/-- The scan finds the last word of what has been typed, whatever follows. -/
theorem wordAt?_append (typed rest : String) :
    wordAt? (typed ++ rest) typed.utf8ByteSize =
      some ((front typed).utf8ByteSize, lastWord typed) := by
  have hstart : wordStart typed.toList = (front typed).utf8ByteSize := by
    rw [wordStart_eq, utf8ByteSize_front]
  simp only [wordAt?, slice?_zero_append, hstart, slice?_lastWord, Option.bind_eq_bind,
    Option.bind_some]

theorem isLastWord_append (typed rest : String) :
    IsLastWord (typed ++ rest) typed.utf8ByteSize (front typed).utf8ByteSize (lastWord typed) where
  start_le := by
    have hsize := congrArg String.utf8ByteSize (front_append_lastWord typed)
    rw [String.utf8ByteSize_append] at hsize
    omega
  boundary := by
    refine atBoundary_iff.2 ⟨front typed, lastWord typed ++ rest, ?_, rfl⟩
    rw [← String.append_assoc, front_append_lastWord]
  slice := slice?_lastWord typed rest
  unbroken := by
    rw [lastWord, String.toList_ofList]
    exact isBlank_of_mem_cut
  front := by
    rcases cut_fst typed.toList with hnil | ⟨before, c, hcut, hc⟩
    · left
      rw [utf8ByteSize_front, hnil]
      rfl
    · refine Or.inr ⟨String.ofList before, c, ?_, hc⟩
      have hfront : front typed = (String.ofList before).push c := by
        apply String.toList_injective
        rw [front, hcut]
        simp
      rw [slice?_front, hfront]

end Completion

namespace World

open Completion

variable {line : String} {pos : Nat}

/-- The names of commands that complete a word which begins at an offset. -/
def commandsAt (w : World) (start : Nat) (word : String) : Completion :=
  ⟨start, (w.commandNames word).map fun name => ⟨name, name ++ " "⟩⟩

/-- The files that complete what has been typed. -/
def filesAt (w : World) (typed : String) : Completion :=
  let x := Context.ofChars typed.toList
  ⟨typed.utf8ByteSize - byteLength x.typed, w.fileNames x⟩

/-- Completes a line at an offset, unless a part of the line is not there. Names of files complete
what stands in front of the cursor as well. -/
def completeAt? (w : World) (line : String) (pos : Nat) : Option Completion := do
  let (start, word) ← wordAt? line pos
  let before ← slice? line 0 start
  if Text.allBlank before then some (w.commandsAt start word)
  else
    let typed ← slice? line 0 pos
    some (w.filesAt typed)

theorem all_isBlank_front (typed : String) :
    (cut typed.toList).1.all isBlank = Text.allBlank (front typed) := by
  rw [Text.allBlank, front, String.toList_ofList]

/-- The first word of a line is being completed if there are no words in front of it. -/
theorem completesFirst_append_iff (typed rest : String) :
    CompletesFirst (typed ++ rest) typed.utf8ByteSize ↔ Words.ofLine (front typed) = [] := by
  rw [CompletesFirst, Text.takeBytes_append, all_isBlank_front, Words.ofLine_eq_nil_iff]

theorem complete_append (w : World) (typed rest : String) :
    w.complete (typed ++ rest) typed.utf8ByteSize =
      if Text.allBlank (front typed) then
        w.commandsAt (front typed).utf8ByteSize (lastWord typed)
      else w.filesAt typed := by
  rw [complete, Text.takeBytes_append, utf8ByteSize_front]
  simp only [all_isBlank_front, filesAt, commandsAt, lastWord, Text.byteLength_toList]

/-- No part of the line that completion takes is missing. -/
theorem completeAt?_append (w : World) (typed rest : String) :
    w.completeAt? (typed ++ rest) typed.utf8ByteSize =
      some (w.complete (typed ++ rest) typed.utf8ByteSize) := by
  rw [complete_append]
  simp only [completeAt?, wordAt?_append, slice?_front, slice?_zero_append, Option.bind_eq_bind,
    Option.bind_some]
  split
  · rfl
  · rfl

/-- Completion has a result exactly at a cursor between two characters. -/
theorem isSome_completeAt?_iff (w : World) :
    (w.completeAt? line pos).isSome = true ↔ AtBoundary line pos := by
  constructor
  · intro h
    apply Decidable.byContradiction
    intro hpos
    have hnone : slice? line 0 pos = none := dif_neg fun hslice => hpos hslice.2.1
    simp [completeAt?, wordAt?, hnone] at h
  · intro hpos
    obtain ⟨typed, rest, rfl, rfl⟩ := atBoundary_iff.1 hpos
    rw [completeAt?_append]
    rfl

/-- At a cursor between two characters, the scan finds the word in front of the cursor: it begins
between two characters, it is what the line holds from there to the cursor, it holds no blank, and
it begins the line or follows a blank. So every part of the line that is taken is there, and the
command names are offered exactly if there are no words in front of that word. What follows the
cursor is not looked at. -/
theorem complete_at_boundary (w : World) (hpos : AtBoundary line pos) :
    ∃ typed before word start,
      slice? line 0 pos = some typed ∧
      wordAt? line pos = some (start, word) ∧
      IsLastWord line pos start word ∧
      slice? line 0 start = some before ∧
      w.completeAt? line pos = some (w.complete line pos) ∧
      (CompletesFirst line pos ↔ Words.ofLine before = []) ∧
      w.complete line pos =
        (if Words.ofLine before = [] then w.commandsAt start word else w.filesAt typed) ∧
      ∀ rest, wordAt? (typed ++ rest) pos = some (start, word) ∧
        (CompletesFirst (typed ++ rest) pos ↔ CompletesFirst line pos) ∧
        w.completeAt? (typed ++ rest) pos = w.completeAt? line pos := by
  -- The cursor parts the line into what has been typed and what follows.
  obtain ⟨typed, rest, rfl, rfl⟩ := atBoundary_iff.1 hpos
  have hkind := (w.complete_append typed rest).trans
    (if_congr Words.ofLine_eq_nil_iff.symm rfl rfl)
  refine ⟨typed, front typed, lastWord typed, (front typed).utf8ByteSize,
    slice?_zero_append typed rest, wordAt?_append typed rest, isLastWord_append typed rest,
    slice?_front typed rest, w.completeAt?_append typed rest,
    completesFirst_append_iff typed rest, hkind, ?_⟩
  intro rest'
  refine ⟨wordAt?_append typed rest', ?_, ?_⟩
  · rw [completesFirst_append_iff, completesFirst_append_iff]
  · rw [completeAt?_append, completeAt?_append, complete_append, complete_append]

/-- Blanks of three bytes and of two stand in front of a word that is a part of `echo`. -/
theorem complete_at_boundary_wideBlanks :
    AtBoundary "\u3000\u00a0ec ho" 7 ∧ IsLastWord "\u3000\u00a0ec ho" 7 5 "ec" ∧
      World.completeAt? {} "\u3000\u00a0ec ho" 7 = some ⟨5, [⟨"echo", "echo "⟩]⟩ := by
  have hpos : AtBoundary "\u3000\u00a0ec ho" 7 := by decide
  obtain ⟨_, _, _, _, _, hword, hlast, _, hcomplete, _⟩ := complete_at_boundary {} hpos
  have hfound : wordAt? "\u3000\u00a0ec ho" 7 = some (5, "ec") := by decide +kernel
  rw [hfound] at hword
  cases hword
  have hecho : World.complete {} "\u3000\u00a0ec ho" 7 = ⟨5, [⟨"echo", "echo "⟩]⟩ := by
    decide +kernel
  exact ⟨hpos, hlast, hcomplete.trans (congrArg some hecho)⟩

end World

end CommandShell
