import CommandShell.Command
import CommandShell.Proofs.Words.RoundTrip

/-!
# Commands have a standard line

`Command.toWords` writes a command as words and `Words.toLine` writes these as a line. Reading that
line gives the command back, unless one of its arguments is an operator; no command that is read
from a line has such an argument.

* `readWords_toWords` — the words of a command are read as that command.
* `args_readWords` — no argument of a command that has been read is an operator.
* `ofLine_toLine_toWords` — both together, for lines.
-/

namespace CommandShell

/-- The words that are operators. -/
def Operator.words : List String := [">", "1>", ">>", "1>>", "2>", "2>>"]

theorem Operator.ofWord?_eq_none_iff {w : String} : ofWord? w = none ↔ w ∉ words := by
  simp [ofWord?, table, words, List.lookup_eq_none_iff]

theorem Operator.ofWord?_toWord (op : Operator) : ofWord? op.toWord = some op := by
  obtain ⟨s, m⟩ := op
  cases s <;> cases m <;> decide

namespace Command

/-! ## One word at a time -/

theorem readWords_argument {r : Redirections} {w : String} (h : Operator.ofWord? w = none)
    (rest : List String) :
    readWords r (w :: rest) =
      { readWords r rest with args := w :: (readWords r rest).args } := by
  cases rest with
  | nil => simp [readWords, h]
  | cons v rest => simp [readWords, h]

theorem readWords_operator {r : Redirections} {w : String} {op : Operator}
    (h : Operator.ofWord? w = some op) (path : String) (rest : List String) :
    readWords r (w :: path :: rest) = readWords (r.set op.stream ⟨path, op.mode⟩) rest := by
  simp [readWords, h]

/-! ## Words that a command is written in -/

theorem readWords_arguments {args : List String} (h : ∀ a ∈ args, a ∉ Operator.words)
    (r : Redirections) (rest : List String) :
    readWords r (args ++ rest) =
      { readWords r rest with args := args ++ (readWords r rest).args } := by
  induction args with
  | nil => rfl
  | cons a args ih =>
    have ha := Operator.ofWord?_eq_none_iff.2 (h a (by simp))
    have hargs := ih fun b hb => h b (by simp [hb])
    rw [List.cons_append, readWords_argument ha, hargs]
    rfl

/-- The words that redirect a stream set its target and leave the rest to be read. -/
theorem readWords_redirection (s : Stream) (t : Option Redirection) (r : Redirections)
    (rest : List String) :
    readWords r (Redirection.toWords s t ++ rest) =
      readWords (t.elim r (r.set s)) rest := by
  cases t with
  | none => rfl
  | some t => exact readWords_operator (Operator.ofWord?_toWord ⟨s, t.mode⟩) t.path rest

theorem readWords_toWords {c : Command} (h : ∀ a ∈ c.args, a ∉ Operator.words) :
    ofWords c.toWords = c := by
  obtain ⟨args, ⟨out, err⟩⟩ := c
  -- Standard error is read on top of what standard output has set.
  have hout := readWords_redirection .stdout out {} (Redirection.toWords .stderr err)
  have herr := readWords_redirection .stderr err (out.elim {} (Redirections.set {} .stdout)) []
  rw [List.append_nil] at herr
  rw [ofWords, toWords, List.append_assoc, readWords_arguments h, hout, herr]
  cases out <;> cases err <;> simp [readWords, Redirections.set]

/-! ## Arguments that a command is read with -/

/-- What is not an argument is left out of the arguments wherever it stands. -/
theorem args_readWords (r : Redirections) (ws : List String) :
    ∀ a ∈ (readWords r ws).args, a ∉ Operator.words := by
  -- A word becomes an argument only where no operator has been found for it.
  fun_induction readWords r ws with
  | case1 r => simp
  | case2 r w h => simpa using Operator.ofWord?_eq_none_iff.1 h
  | case3 r w op h => simp
  | case4 r w path rest h c ih =>
    intro a ha
    rcases List.mem_cons.1 ha with rfl | ha
    · exact Operator.ofWord?_eq_none_iff.1 h
    · exact ih a ha
  | case5 r w path rest op h ih => exact ih

/-- A command is read back from its standard line exactly if none of its arguments is an operator.
No command that a line spells has such an argument, so it is read back from its standard line. -/
theorem ofLine_toLine_toWords :
    (∀ c : Command, ofLine (Words.toLine c.toWords) = c ↔ ∀ a ∈ c.args, a ∉ Operator.words) ∧
    ∀ line : String, (∀ a ∈ (ofLine line).args, a ∉ Operator.words) ∧
      ofLine (Words.toLine (ofLine line).toWords) = ofLine line := by
  have hargs : ∀ line : String, ∀ a ∈ (ofLine line).args, a ∉ Operator.words := by
    intro line
    exact args_readWords {} (Words.ofLine line)
  have hback : ∀ c : Command, (∀ a ∈ c.args, a ∉ Operator.words) →
      ofLine (Words.toLine c.toWords) = c := by
    intro c h
    rw [ofLine, Words.ofLine_toLine, readWords_toWords h]
  refine ⟨?_, fun line => ⟨hargs line, hback _ (hargs line)⟩⟩
  intro c
  constructor
  · intro h
    rw [← h]
    exact hargs _
  · exact hback c

/-- A command with targets that are spelled like operators. -/
def likeOperators : Command where
  args := ["echo", "", "it's > here", "2>&1"]
  redirections := ⟨some ⟨">>", .append⟩, some ⟨"2>", .truncate⟩⟩

theorem ofLine_toLine_likeOperators :
    (∀ a ∈ likeOperators.args, a ∉ Operator.words) ∧
      ofLine (Words.toLine likeOperators.toWords) = likeOperators := by
  have hargs : ∀ a ∈ likeOperators.args, a ∉ Operator.words := by decide
  exact ⟨hargs, (ofLine_toLine_toWords.1 likeOperators).2 hargs⟩

end Command

end CommandShell
