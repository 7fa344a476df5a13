import CommandShell.Proofs.Command.RoundTrip
import Mathlib.Logic.ExistsUnique

/-!
# The words of a command fall into items

An item is a word that is no operator, or an operator with the word after it, whatever that is. At
the very end an operator may stand alone. Any list of words falls into items in one way only, and
the items tell the command.

* `Split.ofWords_words`, `Split.words_ofWords` — splitting words and writing a split undo each
  other.
* `readWords_split` — what the items say, on top of what is redirected already.
* `ofWords_split` — every list of words has one split, and the command is read from it.
-/

namespace CommandShell

namespace Operator

/-- The operators that redirect standard output. -/
def stdoutWords : List String := [">", "1>", ">>", "1>>"]

/-- The operators that redirect standard error. -/
def stderrWords : List String := ["2>", "2>>"]

/-- The operators that append. -/
def appendWords : List String := [">>", "1>>", "2>>"]

/-- The mode that an operator stands for. -/
def modeOf (w : String) : WriteMode :=
  if w ∈ appendWords then .append else .truncate

theorem mem_words_iff {w : String} : w ∈ words ↔ w ∈ stdoutWords ∨ w ∈ stderrWords := by
  simp only [words, stdoutWords, stderrWords, List.mem_cons, List.not_mem_nil, or_false, or_assoc]

theorem ofWord?_stdout {w : String} (h : w ∈ stdoutWords) :
    ofWord? w = some ⟨.stdout, modeOf w⟩ := by
  have hall : ∀ v ∈ stdoutWords, ofWord? v = some ⟨.stdout, modeOf v⟩ := by decide
  exact hall w h

theorem ofWord?_stderr {w : String} (h : w ∈ stderrWords) :
    ofWord? w = some ⟨.stderr, modeOf w⟩ := by
  have hall : ∀ v ∈ stderrWords, ofWord? v = some ⟨.stderr, modeOf v⟩ := by decide
  exact hall w h

theorem not_mem_stderrWords {w : String} (h : w ∈ stdoutWords) : w ∉ stderrWords := by
  have hall : ∀ v ∈ stdoutWords, v ∉ stderrWords := by decide
  exact hall w h

end Operator

namespace Command

/-! ## Splits -/

/-- A piece of a command line. -/
inductive Item where
  | argument (word : String) (plain : word ∉ Operator.words)
  /-- An operator and the word after it, which may be an operator, too. -/
  | redirection (operator : String) (spelled : operator ∈ Operator.words) (path : String)

namespace Item

/-- The words of an item. -/
def words : Item → List String
  | argument w _ => [w]
  | redirection op _ path => [op, path]

/-- The argument that an item is. -/
def argument? : Item → Option String
  | argument w _ => some w
  | redirection .. => none

/-- The target that an item gives to the stream with some operators. -/
def target? (ops : List String) : Item → Option Redirection
  | argument .. => none
  | redirection op _ path => if op ∈ ops then some ⟨path, Operator.modeOf op⟩ else none

end Item

/-- A list of words in items. -/
structure Split where
  items : List Item
  /-- An operator at the very end, with no word after it. -/
  dangling : Option { w : String // w ∈ Operator.words }

namespace Split

/-- The words of a split. -/
def words (s : Split) : List String :=
  s.items.flatMap Item.words ++ (s.dangling.map Subtype.val).toList

/-- The last target that the items give to the stream with some operators. -/
def target (s : Split) (ops : List String) : Option Redirection :=
  (s.items.filterMap (Item.target? ops)).getLast?

/-- The command that the items tell: the arguments in their order, and for each stream the last
redirection. A dangling operator has no part in it. -/
def command (s : Split) : Command where
  args := s.items.filterMap Item.argument?
  redirections := ⟨s.target Operator.stdoutWords, s.target Operator.stderrWords⟩

/-- The split with an item before its others. -/
def cons (i : Item) (s : Split) : Split :=
  { s with items := i :: s.items }

theorem words_mk_cons (i : Item) (items : List Item)
    (dangling : Option { w : String // w ∈ Operator.words }) :
    (Split.mk (i :: items) dangling).words = i.words ++ (Split.mk items dangling).words := by
  simp [words]

theorem words_cons (i : Item) (s : Split) : (s.cons i).words = i.words ++ s.words :=
  words_mk_cons i s.items s.dangling

/-- The split of a list of words. -/
def ofWords : List String → Split
  | [] => ⟨[], none⟩
  | [w] => if h : w ∈ Operator.words then ⟨[], some ⟨w, h⟩⟩ else ⟨[.argument w h], none⟩
  | w :: path :: rest =>
    if h : w ∈ Operator.words then (ofWords rest).cons (.redirection w h path)
    else (ofWords (path :: rest)).cons (.argument w h)

theorem ofWords_argument {w : String} (h : w ∉ Operator.words) (rest : List String) :
    ofWords (w :: rest) = (ofWords rest).cons (.argument w h) := by
  cases rest with
  | nil => simp [ofWords, h, cons]
  | cons path rest => simp [ofWords, h]

theorem ofWords_redirection {w : String} (h : w ∈ Operator.words) (path : String)
    (rest : List String) :
    ofWords (w :: path :: rest) = (ofWords rest).cons (.redirection w h path) := by
  simp [ofWords, h]

theorem words_ofWords (ws : List String) : (ofWords ws).words = ws := by
  -- Where a word is taken with the next one, the rest is two words shorter.
  fun_induction ofWords ws with
  | case1 => rfl
  | case2 w h => rfl
  | case3 w h => rfl
  | case4 w path rest h ih => rw [words_cons, ih]; rfl
  | case5 w path rest h ih => rw [words_cons, ih]; rfl

theorem ofWords_words (s : Split) : ofWords s.words = s := by
  obtain ⟨items, dangling⟩ := s
  induction items with
  | nil =>
    cases dangling with
    | none => rfl
    | some op => simp [words, ofWords, op.2]
  | cons i items ih =>
    rw [words_mk_cons]
    cases i with
    | argument w h =>
      have hsplit := ofWords_argument h (Split.mk items dangling).words
      rw [ih] at hsplit
      exact hsplit
    | redirection op h path =>
      have hsplit := ofWords_redirection h path (Split.mk items dangling).words
      rw [ih] at hsplit
      exact hsplit

/-- Words fall into items in one way only. -/
theorem existsUnique_words_eq (ws : List String) : ∃! s : Split, s.words = ws := by
  refine ⟨ofWords ws, words_ofWords ws, ?_⟩
  intro s hs
  rw [← hs, ofWords_words]

end Split

/-! ## What the items tell -/

/-- The targets of both streams after an item: the one that it redirects has a new target. -/
def Item.redirect (r : Redirections) (i : Item) : Redirections :=
  ⟨(i.target? Operator.stdoutWords).or r.stdout, (i.target? Operator.stderrWords).or r.stderr⟩

/-- Reading takes one item after the other. -/
theorem readWords_item (r : Redirections) (i : Item) (rest : List String) :
    readWords r (i.words ++ rest) =
      { readWords (i.redirect r) rest with
        args := i.argument?.toList ++ (readWords (i.redirect r) rest).args } := by
  cases i with
  | argument w h => exact readWords_argument (Operator.ofWord?_eq_none_iff.2 h) rest
  | redirection op h path =>
    rcases Operator.mem_words_iff.1 h with hout | herr
    · have hset : (Item.redirection op h path).redirect r =
          r.set .stdout ⟨path, Operator.modeOf op⟩ := by
        simp [Item.redirect, Item.target?, hout, Operator.not_mem_stderrWords hout,
          Redirections.set]
      rw [hset]
      exact readWords_operator (Operator.ofWord?_stdout hout) path rest
    · have hnot : op ∉ Operator.stdoutWords := fun hout =>
        Operator.not_mem_stderrWords hout herr
      have hset : (Item.redirection op h path).redirect r =
          r.set .stderr ⟨path, Operator.modeOf op⟩ := by
        simp [Item.redirect, Item.target?, hnot, herr, Redirections.set]
      rw [hset]
      exact readWords_operator (Operator.ofWord?_stderr herr) path rest

/-- A lone operator tells nothing. -/
theorem readWords_dangling (r : Redirections) (op : Option { w : String // w ∈ Operator.words }) :
    readWords r (op.map Subtype.val).toList = ⟨[], r⟩ := by
  cases op with
  | none => rfl
  | some op =>
    obtain ⟨w, hw⟩ := op
    cases hop : Operator.ofWord? w with
    | none => exact absurd hw (Operator.ofWord?_eq_none_iff.1 hop)
    | some o => simp [readWords, hop]

/-- A later redirection of a stream replaces an earlier one. -/
theorem getLast?_filterMap_cons (ops : List String) (i : Item) (items : List Item)
    (before : Option Redirection) :
    ((i :: items).filterMap (Item.target? ops)).getLast?.or before =
      (items.filterMap (Item.target? ops)).getLast?.or ((i.target? ops).or before) := by
  cases h : i.target? ops with
  | none => rw [List.filterMap_cons_none h, Option.none_or]
  | some t =>
    rw [List.filterMap_cons_some h, List.getLast?_cons]
    cases (items.filterMap (Item.target? ops)).getLast? <;> rfl

/-- What the items say, on top of what is redirected already. -/
theorem readWords_split (r : Redirections) (s : Split) :
    readWords r s.words =
      ⟨s.items.filterMap Item.argument?,
        ⟨(s.target Operator.stdoutWords).or r.stdout,
          (s.target Operator.stderrWords).or r.stderr⟩⟩ := by
  obtain ⟨items, dangling⟩ := s
  induction items generalizing r with
  | nil =>
    rw [Split.words, List.flatMap_nil, List.nil_append, readWords_dangling]
    rfl
  | cons i items ih =>
    rw [Split.words_mk_cons, readWords_item, ih]
    simp only [Split.target, getLast?_filterMap_cons, Item.redirect]
    cases i <;> rfl

/-- Every list of words falls into items in one way only, and the items tell the command that is
read. An operator that stands alone at the end makes no difference. -/
theorem ofWords_split :
    (∀ ws : List String, ∃! s : Split, s.words = ws) ∧
    ∀ s : Split, ofWords s.words = s.command ∧
      ofWords (s.items.flatMap Item.words) = s.command := by
  have hcommand : ∀ s : Split, ofWords s.words = s.command := by
    intro s
    rw [ofWords, readWords_split]
    simp only [Option.or_none]
    rfl
  refine ⟨Split.existsUnique_words_eq, fun s => ⟨hcommand s, ?_⟩⟩
  have hwords : (Split.mk s.items none).words = s.items.flatMap Item.words :=
    List.append_nil _
  rw [← hwords]
  exact hcommand ⟨s.items, none⟩

/-- An operator after an operator is a path, and a lone one at the end takes nothing away. -/
example : ofWords ["a", ">", ">>", "b", "1>>", "c", ">"] =
    ⟨["a", "b"], ⟨some ⟨"c", .append⟩, none⟩⟩ := by decide

end Command

end CommandShell
