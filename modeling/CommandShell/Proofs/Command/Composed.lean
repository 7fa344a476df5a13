import CommandShell.Proofs.Command.Items
import CommandShell.Proofs.Words.Continued

/-!
# Lines side by side

A blank that stands where a word could end makes one line out of two. The words of the line are
those of both parts, and so are the arguments of its command; for each stream the later part decides
if it redirects it. An operator at the very end of the first part takes its path from the second
one.

* `readWords_eq_followedBy` — reading words on top of what is redirected already.
* `readWords_items` — reading the words of items first.
* `ofLine_append_blank` — the words and the command of both parts.
-/

namespace CommandShell

namespace Command

/-- The command that two commands make, one after the other: the arguments of both, and for each
stream the target that the second one gives it, or else the first one. -/
def followedBy (c d : Command) : Command where
  args := c.args ++ d.args
  redirections :=
    ⟨d.redirections.stdout.or c.redirections.stdout,
      d.redirections.stderr.or c.redirections.stderr⟩

/-- The command with one more redirection. -/
def redirect (c : Command) (op : Operator) (path : String) : Command :=
  { c with redirections := c.redirections.set op.stream ⟨path, op.mode⟩ }

/-! ## Words behind words -/

theorem readWords_eq_followedBy (r : Redirections) (ws : List String) :
    readWords r ws = followedBy ⟨[], r⟩ (ofWords ws) := by
  -- Both sides are what the items of the words say.
  rw [← Split.words_ofWords ws, ofWords, readWords_split, readWords_split]
  simp [followedBy]

/-- The words of items tell arguments and redirections, on top of which the rest is read. -/
theorem readWords_items (r : Redirections) (items : List Item) (rest : List String) :
    readWords r (items.flatMap Item.words ++ rest) =
      followedBy (readWords r (items.flatMap Item.words)) (ofWords rest) := by
  induction items generalizing r with
  | nil => exact readWords_eq_followedBy r rest
  | cons i items ih =>
    rw [List.flatMap_cons, List.append_assoc, readWords_item, ih, readWords_item]
    simp [followedBy]

theorem ofWords_items (items : List Item) (rest : List String) :
    ofWords (items.flatMap Item.words ++ rest) =
      (ofWords (items.flatMap Item.words)).followedBy (ofWords rest) :=
  readWords_items {} items rest

theorem words_of_dangling_none {ws : List String} (h : (Split.ofWords ws).dangling = none) :
    ws = (Split.ofWords ws).items.flatMap Item.words := by
  have hwords := Split.words_ofWords ws
  rw [Split.words, h, Option.map_none, Option.toList_none, List.append_nil] at hwords
  exact hwords.symm

theorem words_of_dangling_some {ws : List String} {op : { w : String // w ∈ Operator.words }}
    (h : (Split.ofWords ws).dangling = some op) :
    ws = (Split.ofWords ws).items.flatMap Item.words ++ [op.val] := by
  have hwords := Split.words_ofWords ws
  rw [Split.words, h, Option.map_some, Option.toList_some] at hwords
  exact hwords.symm

/-- Words that leave no operator open are a command of their own. -/
theorem ofWords_append {ws : List String} (h : (Split.ofWords ws).dangling = none)
    (vs : List String) : ofWords (ws ++ vs) = (ofWords ws).followedBy (ofWords vs) := by
  rw [words_of_dangling_none h]
  exact ofWords_items _ vs

/-- An operator that is left open takes its path from the words behind. -/
theorem ofWords_append_path {ws : List String} {op : { w : String // w ∈ Operator.words }}
    (h : (Split.ofWords ws).dangling = some op) {o : Operator} (ho : Operator.ofWord? op = some o)
    (path : String) (rest : List String) :
    ofWords (ws ++ path :: rest) = ((ofWords ws).redirect o path).followedBy (ofWords rest) := by
  have hopen : ofWords [op.val] = {} := readWords_dangling {} (some op)
  have hpath : ofWords (op.val :: path :: rest) =
      followedBy ⟨[], Redirections.set {} o.stream ⟨path, o.mode⟩⟩ (ofWords rest) := by
    rw [ofWords, readWords_operator ho, readWords_eq_followedBy]
  rw [words_of_dangling_some h, List.append_assoc, List.singleton_append, ofWords_items,
    ofWords_items, hopen, hpath]
  obtain ⟨stream, mode⟩ := o
  cases stream <;> simp [followedBy, redirect, Redirections.set]

/-! ## A line in two parts -/

/-- A blank that stands where a word could end parts a line. Its words are those of both parts. Its
command is that of the first part followed by that of the second one, or, if the first part ends in
an operator, this takes its path from the second part, and the words behind that follow. -/
theorem ofLine_append_blank {a b : String} {c : Char} (hc : Text.isBlank c = true)
    (ha : (Words.Reader.run {} a.toList).Free) :
    Words.ofLine (a ++ String.singleton c ++ b) = Words.ofLine a ++ Words.ofLine b ∧
      ((Split.ofWords (Words.ofLine a)).dangling = none →
        ofLine (a ++ String.singleton c ++ b) = (ofLine a).followedBy (ofLine b)) ∧
      ∀ op ∈ (Split.ofWords (Words.ofLine a)).dangling, ∀ o, Operator.ofWord? op = some o →
        ∀ path rest, Words.ofLine b = path :: rest →
          ofLine (a ++ String.singleton c ++ b) =
            ((ofLine a).redirect o path).followedBy (ofWords rest) := by
  have hwords : Words.ofLine (a ++ String.singleton c ++ b) =
      Words.ofLine a ++ Words.ofLine b := by
    have hline : (a ++ String.singleton c ++ b).toList = a.toList ++ c :: b.toList := by simp
    rw [Words.ofLine, hline, Words.ofChars_append_blank hc ha, List.map_append]
    rfl
  refine ⟨hwords, ?_, ?_⟩
  · intro hnone
    rw [ofLine, hwords, ofWords_append hnone]
    rfl
  · intro op hop o ho path rest hb
    rw [ofLine, hwords, hb, ofWords_append_path hop ho]
    rfl

/-- The first part ends in an operator, behind a word that is partly in quotes, with quotes inside
them. An ideographic space parts the line, and the path stands in quotes. -/
theorem ofLine_append_blank_openOperator :
    Text.isBlank '\u3000' = true ∧
      (Words.Reader.run {} "x\"a\\\"b\\\"c\" 2> e >".toList).Free ∧
      Words.ofLine ("x\"a\\\"b\\\"c\" 2> e >" ++ String.singleton '\u3000' ++ "'out f' y 2>> g") =
        ["xa\"b\"c", "2>", "e", ">", "out f", "y", "2>>", "g"] ∧
      ofLine ("x\"a\\\"b\\\"c\" 2> e >" ++ String.singleton '\u3000' ++ "'out f' y 2>> g") =
        ⟨["xa\"b\"c", "y"], ⟨some ⟨"out f", .truncate⟩, some ⟨"g", .append⟩⟩⟩ := by
  have hc : Text.isBlank '\u3000' = true := by decide
  have ha : (Words.Reader.run {} "x\"a\\\"b\\\"c\" 2> e >".toList).Free :=
    ⟨by decide, by decide⟩
  obtain ⟨hwords, -, hopen⟩ := ofLine_append_blank (b := "'out f' y 2>> g") hc ha
  refine ⟨hc, ha, hwords.trans (by decide), ?_⟩
  have hline := hopen ⟨">", by decide⟩ (by decide) ⟨.stdout, .truncate⟩ (by decide) "out f"
    ["y", "2>>", "g"] (by decide)
  exact hline.trans (by decide)

end Command

end CommandShell
