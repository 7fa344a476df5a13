import CommandShell.Proofs.History.Entries
import CommandShell.Proofs.Text.Lines

/-!
# What a history file keeps

A history file that is a text can always be read. What is written into it is read back, as long as
no line ends in a carriage return, which would become a part of the end of its line. So it makes no
difference whether lines are added by one shell or by two, one after the other.

* `addFile_encode` — what a history has been given once its file is read.
* `storedLines_fileText` — what is written is read back.
* `fileAfter_append` — what two shells leave in the file, and what one does.
-/

namespace CommandShell.History

open Text (linesOf linesOf_line)

variable {n : Nat} {xs ys : List String} {x : String} {h : History}

/-! ## Reading -/

/-- The lines that a text keeps: those after the mark, if it has one, with their escapes undone.
An empty line is nothing to remember. -/
def storedLines (t : String) : List String :=
  let ls := linesOf t
  let read := if ls.head? = some mark then (ls.drop 1).map (readLine true) else ls
  read.filter (· ≠ "")

theorem mem_storedLines_ne {t : String} (h : x ∈ storedLines t) : x ≠ "" := by
  simpa using (List.mem_filter.1 h).2

theorem add_empty (h : History) : h.add "" = h := by
  have hignores : h.ignores "" = true := by simp [ignores]
  rw [History.add, if_pos hignores]

theorem foldl_add_filter (h : History) (xs : List String) :
    (xs.filter (· ≠ "")).foldl History.add h = xs.foldl History.add h := by
  induction xs generalizing h with
  | nil => rfl
  | cons x xs ih =>
    by_cases hx : x = ""
    · subst hx
      rw [List.filter_cons_of_neg (by simp), ih, List.foldl_cons, add_empty]
    · rw [List.filter_cons_of_pos (by simpa using hx), List.foldl_cons, List.foldl_cons, ih]

/-- Lines that are texts can all be read. -/
theorem addLines_encode (h : History) (escaped : Bool) (ls : List String) :
    h.addLines escaped (ls.map Utf8.encode) =
      ((ls.map (readLine escaped)).foldl History.add h, .ok ()) := by
  induction ls generalizing h with
  | nil => rfl
  | cons l ls ih =>
    rw [List.map_cons, addLines, Utf8.decode?_encode]
    simp only [ih, List.map_cons, List.foldl_cons]

/-- A file that is a text can be read. -/
theorem addFile_encode (h : History) (t : String) :
    h.addFile (Utf8.encode t) =
      ({ (storedLines t).foldl History.add h with changed := false }, .ok ()) := by
  have hplain (ls : List String) : ls.map (readLine false) = ls := List.map_id' ls
  have hmark : (Text.lines (Utf8.encode t)).head? = some (Utf8.encode mark) ↔
      (linesOf t).head? = some mark := by
    rw [Text.lines_encode, List.head?_map, Option.map_eq_some_iff]
    constructor
    · rintro ⟨l, hl, heq⟩
      rw [hl, Utf8.encode_injective heq]
    · intro hl
      exact ⟨mark, hl, rfl⟩
  rw [storedLines, foldl_add_filter]
  simp only [addFile, hmark]
  by_cases hhead : (linesOf t).head? = some mark
  · simp only [hhead, decide_true, if_true, Text.lines_encode, ← List.map_drop, addLines_encode]
  · simp only [hhead, decide_false, if_false, Text.lines_encode,
      addLines_encode, hplain]

/-- The lines that a history is given from its file, if there is one. -/
def given : Option String → List String
  | none => []
  | some t => storedLines t

/-- The lines that a history holds once its file is read. -/
def loaded (n : Nat) (old : Option String) : List String :=
  latest n (given old)

theorem mem_given_ne {old : Option String} (h : x ∈ given old) : x ≠ "" := by
  cases old with
  | none => cases h
  | some t => exact mem_storedLines_ne h

theorem mem_loaded_ne {old : Option String} (h : x ∈ loaded n old) : x ≠ "" :=
  mem_given_ne (mem_of_mem_latest h)

/-- A history when its file has been read. -/
def reopened (n : Nat) (old : Option String) : History :=
  { (given old).foldl History.add { limit := n } with changed := false }

theorem holds_reopened (n : Nat) (old : Option String) : (reopened n old).Holds n (given old) := by
  have hgiven := (holds_empty n false).foldl_add fun x (hx : x ∈ given old) => mem_given_ne hx
  exact ⟨hgiven.limit, hgiven.added⟩

/-! ## Writing -/

/-- The text that keeps some lines. -/
def fileText (es : List String) : String :=
  mark ++ "\n" ++ String.join (es.map fun l => String.ofList (escape l.toList) ++ "\n")

theorem toText_eq (h : History) : h.toText = fileText h.entries.reverse :=
  rfl

theorem newline_not_mem_escape (l : List Char) : '\n' ∉ escape l := by
  rw [escape, List.mem_flatMap]
  rintro ⟨c, _, hc⟩
  split at hc
  · simp at hc
  · split at hc
    · simp at hc
    · next hne =>
      exact hne (List.mem_singleton.1 hc).symm

/-- A line that is escaped ends in a carriage return only if it does so itself. -/
theorem getLast?_escape {l : List Char} (h : l.getLast? ≠ some '\r') :
    (escape l).getLast? ≠ some '\r' := by
  induction l using List.reverseRecOn with
  | nil => simp [escape]
  | append_singleton l c _ =>
    have hc : c ≠ '\r' := by simpa using h
    rw [escape, List.flatMap_append, List.flatMap_singleton, List.getLast?_append]
    split
    · simp
    · split
      · simp
      · simpa using hc

theorem readLine_escape (l : String) : readLine true (String.ofList (escape l.toList)) = l := by
  rw [readLine, if_pos rfl, String.toList_ofList, unescape?_escape, Option.map_some,
    String.ofList_toList, Option.getD_some]

/-- A line that can be read back: it is not empty and does not end in a carriage return. -/
def Storable (l : String) : Prop :=
  l ≠ "" ∧ l.toList.getLast? ≠ some '\r'

theorem linesOf_fileText {es : List String} (hes : ∀ e ∈ es, Storable e) :
    linesOf (fileText es) = mark :: es.map fun l => String.ofList (escape l.toList) := by
  rw [fileText, linesOf_line (by decide) (by decide)]
  congr 1
  induction es with
  | nil => rfl
  | cons e es ih =>
    have hreturn := getLast?_escape (hes e List.mem_cons_self).2
    rw [List.map_cons, String.join_cons, List.map_cons, linesOf_line,
      ih fun x hx => hes x (List.mem_cons_of_mem e hx)]
    · rw [String.toList_ofList]
      exact newline_not_mem_escape _
    · rwa [String.toList_ofList]

/-- What is written is read back. -/
theorem storedLines_fileText {es : List String} (hes : ∀ e ∈ es, Storable e) :
    storedLines (fileText es) = es := by
  have hread : ((es.map fun l => String.ofList (escape l.toList)).map (readLine true)) = es := by
    simp only [List.map_map, Function.comp_def, readLine_escape, List.map_id']
  simp only [storedLines, linesOf_fileText hes, List.head?_cons, if_true, List.drop_one,
    List.tail_cons, hread]
  exact List.filter_eq_self.2 fun e he => by simpa using (hes e he).1

/-- No line is added to what is loaded: each repeats the one before it, or nothing is held. -/
def AddsNone (n : Nat) (old : Option String) (lines : List String) : Prop :=
  n = 0 ∨ ∀ l ∈ lines, (loaded n old).getLast? = some l

instance (n : Nat) (old : Option String) (lines : List String) :
    Decidable (AddsNone n old lines) :=
  inferInstanceAs (Decidable (_ ∨ _))

/-- What a history file holds after some lines, if it held a text or was missing before. -/
def fileAfter (n : Nat) (old : Option String) (lines : List String) : Option String :=
  if AddsNone n old lines then old else some (fileText (latest n (loaded n old ++ lines)))

theorem changed_foldl_add_reopened {old : Option String} (hxs : ∀ x ∈ xs, x ≠ "") :
    (xs.foldl History.add (reopened n old)).changed = true ↔ ¬ AddsNone n old xs := by
  have hreopened : (reopened n old).changed = false := rfl
  rw [(holds_reopened n old).changed_foldl_add_iff hxs, hreopened, AddsNone]
  by_cases hn : n = 0
  · simp [hn]
  · simp [hn, loaded, getLast?_latest hn]

/-- What is written when some lines have been added. -/
theorem toText_foldl_add_reopened {old : Option String} (hn : n ≠ 0) (hxs : ∀ x ∈ xs, x ≠ "") :
    (xs.foldl History.add (reopened n old)).toText =
      fileText (latest n (loaded n old ++ xs)) := by
  rw [toText_eq, ((holds_reopened n old).foldl_add hxs).entries, loaded, latest_append_latest hn]

/-- It makes no difference whether lines are added by one shell or by two. -/
theorem fileAfter_append {old : Option String} (hn : n ≠ 0)
    (hold : ∀ x ∈ loaded n old, x.toList.getLast? ≠ some '\r') (hxs : ∀ x ∈ xs, Storable x) :
    fileAfter n (fileAfter n old xs) ys = fileAfter n old (xs ++ ys) := by
  have hstores : ∀ x ∈ latest n (loaded n old ++ xs), Storable x := by
    intro x hx
    rcases List.mem_append.1 (mem_of_mem_latest hx) with hx | hx
    · exact ⟨mem_loaded_ne hx, hold x hx⟩
    · exact hxs x hx
  simp only [fileAfter, AddsNone, hn, false_or, List.forall_mem_append, ← List.append_assoc]
  by_cases hrepeated : ∀ x ∈ xs, (loaded n old).getLast? = some x
  · -- The first shell leaves the file alone.
    have hskip : latest n (loaded n old ++ xs ++ ys) = latest n (loaded n old ++ ys) := by
      rw [← latest_append_latest hn (loaded n old ++ xs), latest_append_repeated hn hrepeated,
        latest_append_latest hn]
    simp only [if_pos hrepeated, hskip, and_iff_right hrepeated]
  · -- The second shell reads what the first has written.
    have hreread : loaded n (some (fileText (latest n (loaded n old ++ xs)))) =
        latest n (loaded n old ++ xs) := by
      rw [loaded, given, storedLines_fileText hstores, latest_latest]
    have hadded : ¬ ((∀ x ∈ xs, (loaded n old).getLast? = some x) ∧
        ∀ y ∈ ys, (loaded n old).getLast? = some y) := fun hboth => hrepeated hboth.1
    simp only [if_neg hrepeated, if_neg hadded, hreread, latest_append_latest hn,
      getLast?_latest hn]
    split
    · next hys => rw [latest_append_repeated hn hys]
    · rfl

end CommandShell.History
