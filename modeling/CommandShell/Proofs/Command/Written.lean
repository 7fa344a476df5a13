import CommandShell.Proofs.Command.Items

/-!
# Lines that are written

A line is written as a list of quoted words, with redirections behind them: each is an operator and
a quoted path. It is read as the command of these words with these redirections, whatever the words
and the paths hold.

* `WrittenLine.words_text` — the words of the line.
* `WrittenLine.ofLine_text` — the command that the line spells.
-/

namespace CommandShell

open Words (quote)

/-- A redirection as it is written. -/
structure WrittenRedirection where
  /-- The operator as it is spelled. -/
  operator : String
  path : String
  spelled : operator ∈ Operator.words

namespace WrittenRedirection

/-- The item that the redirection is in a list of words. -/
def item (r : WrittenRedirection) : Command.Item :=
  .redirection r.operator r.spelled r.path

/-- The redirection in a line, behind what comes before it. -/
def text (r : WrittenRedirection) : String :=
  " " ++ r.operator ++ " " ++ quote r.path

/-- The words of the redirection as they are written, each with what it stands for. -/
def pieces (r : WrittenRedirection) : List (String × String) :=
  [(r.operator, r.operator), (quote r.path, r.path)]

end WrittenRedirection

/-- A line that names a command, its arguments and its redirections. -/
structure WrittenLine where
  command : String
  args : List String
  redirections : List WrittenRedirection
  plain : ∀ a ∈ command :: args, a ∉ Operator.words

namespace WrittenLine

/-- The line as it is written. -/
def text (l : WrittenLine) : String :=
  Words.toLine (l.command :: l.args) ++ String.join (l.redirections.map (·.text))

/-- The targets of both streams: for each the last one that is written. -/
def targets (l : WrittenLine) : Redirections :=
  (Command.Split.mk (l.redirections.map (·.item)) none).command.redirections

/-- The words of the line as they are written, each with what it stands for. -/
def pieces (l : WrittenLine) : List (String × String) :=
  ((l.command :: l.args).map fun a => (quote a, a)) ++ l.redirections.flatMap (·.pieces)

/-! ## Reading the line -/

/-- An operator is a word that needs no quotes. -/
theorem word_operator {op : String} (h : op ∈ Operator.words) :
    Words.Grammar.Word op.toList op.toList := by
  have hall : (Operator.words.all fun op =>
      !op.toList.isEmpty && op.toList.all fun c => c ∈ ['>', '1', '2']) = true := by decide
  have hop := List.all_eq_true.1 hall op h
  rw [Bool.and_eq_true, Bool.not_eq_true', List.isEmpty_eq_false_iff, List.all_eq_true] at hop
  refine Words.word_of_segments hop.1 fun c hc => ?_
  have hc' := of_decide_eq_true (hop.2 c hc)
  simp only [List.mem_cons, List.not_mem_nil, or_false] at hc'
  rcases hc' with rfl | rfl | rfl
  · exact .plain (by decide) (by decide) (by decide) (by decide)
  · exact .plain (by decide) (by decide) (by decide) (by decide)
  · exact .plain (by decide) (by decide) (by decide) (by decide)

theorem word_of_mem_pieces {l : WrittenLine} {p : String × String} (h : p ∈ l.pieces) :
    Words.Grammar.Word p.1.toList p.2.toList := by
  rcases List.mem_append.1 h with hword | hredirection
  · obtain ⟨a, _, rfl⟩ := List.mem_map.1 hword
    exact Words.word_quote a
  · obtain ⟨r, _, hr⟩ := List.mem_flatMap.1 hredirection
    rcases List.mem_cons.1 hr with rfl | hpath
    · exact word_operator r.spelled
    · obtain rfl := List.mem_singleton.1 hpath
      exact Words.word_quote r.path

/-- Redirections are written behind words as more words. -/
theorem intercalate_append_redirections {ws : List String} (hws : ws ≠ [])
    (rs : List WrittenRedirection) :
    " ".intercalate ws ++ String.join (rs.map (·.text)) =
      " ".intercalate (ws ++ (rs.flatMap (·.pieces)).map Prod.fst) := by
  induction rs generalizing ws with
  | nil => simp
  | cons r rs ih =>
    have hfirst : " ".intercalate ws ++ r.text = " ".intercalate (ws ++ r.pieces.map Prod.fst) := by
      rw [String.intercalate_append_of_ne_nil hws (by simp [WrittenRedirection.pieces])]
      simp [WrittenRedirection.pieces, WrittenRedirection.text, String.intercalate_cons_cons,
        String.append_assoc]
    rw [List.map_cons, String.join_cons, ← String.append_assoc, hfirst,
      ih (by simp [hws]), List.flatMap_cons, List.map_append, List.append_assoc]

theorem text_eq_intercalate (l : WrittenLine) :
    l.text = " ".intercalate (l.pieces.map Prod.fst) := by
  have hwritten : l.pieces.map Prod.fst =
      (l.command :: l.args).map quote ++ (l.redirections.flatMap (·.pieces)).map Prod.fst := by
    simp [pieces, Function.comp_def]
  rw [hwritten, ← intercalate_append_redirections (by simp)]
  rfl

theorem words_text (l : WrittenLine) :
    Words.ofLine l.text =
      l.command :: l.args ++ (l.redirections.map (·.item)).flatMap Command.Item.words := by
  have hmeant : l.pieces.map Prod.snd =
      l.command :: l.args ++ (l.redirections.map (·.item)).flatMap Command.Item.words := by
    simp only [pieces, List.map_append, List.map_map, List.map_flatMap, List.flatMap_map]
    simp [Function.comp_def, WrittenRedirection.pieces, WrittenRedirection.item,
      Command.Item.words]
  rw [text_eq_intercalate, Words.ofLine_intercalate Prod.fst Prod.snd _ fun _ => word_of_mem_pieces,
    hmeant]

/-- The line is read as its words and its redirections. -/
theorem ofLine_text (l : WrittenLine) :
    Command.ofLine l.text = ⟨l.command :: l.args, l.targets⟩ := by
  have hwords : (l.redirections.map (·.item)).flatMap Command.Item.words =
      (Command.Split.mk (l.redirections.map (·.item)) none).words := by
    simp [Command.Split.words]
  have hnone : (l.redirections.map (·.item)).filterMap Command.Item.argument? = [] := by
    rw [List.filterMap_map, List.filterMap_eq_nil_iff]
    exact fun _ _ => rfl
  rw [Command.ofLine, words_text, Command.ofWords, Command.readWords_arguments l.plain, hwords,
    Command.readWords_split]
  simp only [hnone, List.append_nil, Option.or_none]
  rfl

end WrittenLine

end CommandShell
