import CommandShell.Completion
import CommandShell.Proofs.Command.Items
import CommandShell.Proofs.Words.Kept

/-!
# Accepting the name of a command

A name that completes the first word of a line takes the place of what has been typed of it, as it
is and with a space behind it. The reader sees the completed line and not the name: it finds the
name exactly if none of its characters has a meaning outside quotes.

* `completed_first` — what the line is when a name has been accepted.
* `ofLine_completed_iff` — when a completed line is read as the name that was offered.
-/

namespace CommandShell

theorem Words.ofLine_ofList_eq_singleton_iff {cs : List Char} {word : String} :
    Words.ofLine (String.ofList cs) = [word] ↔ Words.ofChars cs = [word.toList] := by
  rw [Words.ofLine, String.toList_ofList, List.map_eq_singleton_iff]
  constructor
  · rintro ⟨v, hv, rfl⟩
    rw [hv, String.toList_ofList]
  · intro h
    exact ⟨word.toList, h, String.ofList_toList⟩

/-- A single word is a command without redirections exactly if it is no operator. -/
theorem Command.ofWords_singleton_iff (name : String) :
    Command.ofWords [name] = ⟨[name], {}⟩ ↔ name ∉ Operator.words := by
  rw [← Operator.ofWord?_eq_none_iff, ofWords, readWords]
  split
  · next h => simp [h]
  · next op h => simp [h]

namespace World

open Completion Text

variable {w : World} {line : String} {pos : Nat} {c : Candidate}

/-- The first word of a line is being completed: only blanks stand in front of it. -/
def CompletesFirst (line : String) (pos : Nat) : Prop :=
  (cut (takeBytes pos line.toList)).1.all isBlank = true

instance (line : String) (pos : Nat) : Decidable (CompletesFirst line pos) :=
  inferInstanceAs (Decidable (_ = true))

theorem complete_first (w : World) (h : CompletesFirst line pos) :
    w.complete line pos =
      ⟨byteLength (cut (takeBytes pos line.toList)).1,
        (w.commandNames (String.ofList (cut (takeBytes pos line.toList)).2)).map
          fun name => ⟨name, name ++ " "⟩⟩ := by
  rw [complete]
  exact if_pos h

/-- What stands in front of the first word is the start of the line. -/
theorem takeBytes_start (w : World) (h : CompletesFirst line pos) :
    takeBytes (w.complete line pos).start line.toList = (cut (takeBytes pos line.toList)).1 := by
  have hline : line.toList = (cut (takeBytes pos line.toList)).1 ++
      ((cut (takeBytes pos line.toList)).2 ++ dropBytes pos line.toList) := by
    rw [← List.append_assoc, cut_append, takeBytes_append_dropBytes]
  rw [complete_first w h]
  exact (congrArg (takeBytes _) hline).trans (takeBytes_byteLength _ _)

/-- The line that is left when a candidate has been accepted, up to the cursor. -/
def completed (w : World) (line : String) (pos : Nat) (c : Candidate) : String :=
  String.ofList (takeBytes (w.complete line pos).start line.toList) ++ c.replacement

/-- The first word completes to names of commands, each with a space behind it, and only blanks
stand in front of them. -/
theorem completed_first (hfirst : CompletesFirst line pos)
    (hc : c ∈ (w.complete line pos).candidates) :
    ∃ b : List Char, b.all isBlank = true ∧
      w.completed line pos c = String.ofList (b ++ (c.display.toList ++ [' '])) := by
  have hdisplay : c.replacement = c.display ++ " " := by
    simp only [complete_first w hfirst, List.mem_map] at hc
    obtain ⟨name, _, rfl⟩ := hc
    rfl
  refine ⟨(cut (takeBytes pos line.toList)).1, hfirst, ?_⟩
  rw [completed, takeBytes_start w hfirst, hdisplay]
  apply String.toList_injective
  simp

/-- The completed line is read as the name that was offered exactly if the name is not empty and
each of its characters stands for itself. A name that is read so is the whole command that is run,
unless it is an operator. -/
theorem ofLine_completed_iff (hfirst : CompletesFirst line pos)
    (hc : c ∈ (w.complete line pos).candidates) :
    (Words.ofLine (w.completed line pos c) = [c.display] ↔
        c.display ≠ "" ∧ c.display.toList.all Words.isBare = true) ∧
      (Words.ofLine (w.completed line pos c) = [c.display] →
        (Command.ofLine (w.completed line pos c) = ⟨[c.display], {}⟩ ↔
          c.display ∉ Operator.words)) := by
  obtain ⟨b, hb, hcompleted⟩ := completed_first hfirst hc
  constructor
  · rw [hcompleted, Words.ofLine_ofList_eq_singleton_iff, Words.ofChars_blanks hb,
      Words.ofChars_append_space_iff, ne_eq, String.toList_eq_nil_iff]
  · intro hread
    rw [Command.ofLine, hread]
    exact Command.ofWords_singleton_iff c.display

/-- A world with a directory of programs on the search path, and in it a program whose name holds a
space. -/
def withSpacedName : World where
  store := ⟨#[.dir [(Utf8.encode "bin", 1)] Store.root true,
    .dir [(Utf8.encode "my tool", 2), (Utf8.encode "mytool", 3)] Store.root true,
    .file (.program {}) Mode.executable, .file (.program {}) Mode.executable]⟩
  env := [("PATH", Utf8.encode "/bin")]

theorem ofLine_completed_mytool :
    CompletesFirst " my" 3 ∧ ⟨"mytool", "mytool "⟩ ∈ (withSpacedName.complete " my" 3).candidates ∧
      Words.ofLine (withSpacedName.completed " my" 3 ⟨"mytool", "mytool "⟩) = ["mytool"] := by
  have hfirst : CompletesFirst " my" 3 := by decide +kernel
  have hc : ⟨"mytool", "mytool "⟩ ∈ (withSpacedName.complete " my" 3).candidates := by
    decide +kernel
  exact ⟨hfirst, hc, (ofLine_completed_iff hfirst hc).1.2 ⟨by decide, by decide⟩⟩

/-- The name of a program with a space is offered as it is, and two words are read. -/
theorem completed_spacedName :
    ¬ ∀ (w : World) (line : String) (pos : Nat) (c : Candidate), CompletesFirst line pos →
      c ∈ (w.complete line pos).candidates →
        Words.ofLine (w.completed line pos c) = [c.display] := by
  intro h
  have hread := h withSpacedName " my" 3 ⟨"my tool", "my tool "⟩ (by decide +kernel)
    (by decide +kernel)
  have hwords : Words.ofLine (withSpacedName.completed " my" 3 ⟨"my tool", "my tool "⟩) =
      ["my", "tool"] := by decide +kernel
  rw [hwords] at hread
  revert hread
  decide

end World

end CommandShell
