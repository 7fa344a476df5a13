import CommandShell.Dispatch
import CommandShell.Proofs.Words.Canonical

/-!
# The record of a command

The record of a command shows its arguments as a line and then, behind some fixed text, where its
output goes, with the paths between quotes. Words and paths may hold anything, that text included.
Still the record tells the command: the fixed text ends in an open brace, which no written line
holds at that place, and the paths tell where they end.

* `Redirections.selfDelimiting_label` — what is shown of redirections tells them.
* `append_separator_inj` — the fixed text parts a record at one place only.
* `commandRecord_eq_iff` — equal records are records of one command.
-/

namespace CommandShell

open Text (SelfDelimiting)

/-! ## Redirections -/

theorem WriteMode.selfDelimiting_label : SelfDelimiting fun m : WriteMode => m.label.toList := by
  have differ : ∀ s t, "Truncate".toList ++ s ≠ "Append".toList ++ t := by
    intro s t h
    have hhead : 'T' = 'A' := (List.cons.inj h).1
    exact absurd hhead (by decide)
  intro m n s t h
  cases m with
  | truncate =>
    cases n with
    | truncate => exact ⟨rfl, List.append_cancel_left h⟩
    | append => exact absurd h (differ s t)
  | append =>
    cases n with
    | truncate => exact absurd h.symm (differ t s)
    | append => exact ⟨rfl, List.append_cancel_left h⟩

theorem Redirection.label_none : Redirection.label none = "None" := rfl

theorem Redirection.label_some (t : Redirection) :
    Redirection.label (some t) =
      "Some(Redirection \x7b path: " ++ Text.display t.path ++ ", mode: " ++ t.mode.label
        ++ " \x7d)" := rfl

theorem Redirection.selfDelimiting_label :
    SelfDelimiting fun r : Option Redirection => (Redirection.label r).toList := by
  have differ : ∀ (t : Redirection) s s',
      (Redirection.label none).toList ++ s ≠ (Redirection.label (some t)).toList ++ s' := by
    intro t s s' h
    simp only [label_none, label_some, String.toList_append, List.append_assoc] at h
    have hhead : 'N' = 'S' := (List.cons.inj h).1
    exact absurd hhead (by decide)
  intro r r' s s' h
  cases r with
  | none =>
    cases r' with
    | none => exact ⟨rfl, List.append_cancel_left h⟩
    | some t => exact absurd h (differ t s s')
  | some t =>
    cases r' with
    | none => exact absurd h.symm (differ t s' s)
    | some t' =>
      obtain ⟨path, mode⟩ := t
      obtain ⟨path', mode'⟩ := t'
      simp only [label_some, String.toList_append, List.append_assoc] at h
      obtain ⟨rfl, hrest⟩ := Text.selfDelimiting_display (List.append_cancel_left h)
      obtain ⟨rfl, hend⟩ := WriteMode.selfDelimiting_label (List.append_cancel_left hrest)
      exact ⟨rfl, List.append_cancel_left hend⟩

theorem Redirections.label_eq (r : Redirections) :
    r.label =
      "RedirectionSpec \x7b stdout: " ++ Redirection.label r.stdout ++ ", stderr: "
        ++ Redirection.label r.stderr ++ " \x7d" := rfl

theorem Redirections.selfDelimiting_label :
    SelfDelimiting fun r : Redirections => r.label.toList := by
  intro r r' s t h
  obtain ⟨out, err⟩ := r
  obtain ⟨out', err'⟩ := r'
  simp only [label_eq, String.toList_append, List.append_assoc] at h
  obtain ⟨rfl, hrest⟩ := Redirection.selfDelimiting_label (List.append_cancel_left h)
  obtain ⟨rfl, hend⟩ := Redirection.selfDelimiting_label (List.append_cancel_left hrest)
  exact ⟨rfl, List.append_cancel_left hend⟩

/-- What is shown of redirections begins with a name and an open brace. -/
theorem Redirections.exists_toList_label (r : Redirections) :
    ∃ rest, r.label.toList = "RedirectionSpec \x7b".toList ++ rest := by
  have hopen : "RedirectionSpec \x7b stdout: ".toList =
      "RedirectionSpec \x7b".toList ++ " stdout: ".toList := by decide
  simp only [label_eq, String.toList_append, List.append_assoc]
  rw [hopen, List.append_assoc]
  exact ⟨_, rfl⟩

/-! ## The end of the arguments -/

/-- What stands between the arguments and the redirections of a record, as far as it is always the
same. -/
def recordSeparator : List Char :=
  " redirections: RedirectionSpec \x7b".toList

theorem recordSeparator_eq :
    recordSeparator =
      ' ' :: ("redirections:".toList ++ ' ' :: ("RedirectionSpec".toList ++ [' ', '\x7b'])) := by
  decide

/-- No written line goes on with the separator behind another one: the brace would stand where a
word begins. -/
theorem toLine_ne_append_separator (ws vs : List String) (rest : List Char) :
    (Words.toLine vs).toList ≠ (Words.toLine ws).toList ++ (recordSeparator ++ rest) := by
  intro h
  rw [recordSeparator_eq] at h
  simp only [List.cons_append, List.append_assoc, List.nil_append] at h
  obtain ⟨us, hus⟩ := Words.exists_toLine_of_append h
  obtain ⟨us, hus⟩ := Words.exists_toLine_of_plain (by decide) (by decide) hus
  obtain ⟨us, hus⟩ := Words.exists_toLine_of_plain (by decide) (by decide) hus
  rcases Words.head_toLine hus with hplain | hquote
  · exact absurd hplain (by decide)
  · exact absurd hquote (by decide)

/-- The separator does not overlap itself. -/
theorem not_starts_with_separator {a b : List Char} (ha : a ≠ []) (hb : b ≠ [])
    (h : recordSeparator = a ++ b) : ¬ b <+: recordSeparator := by
  have hall : ∀ n < recordSeparator.length, 0 < n →
      (recordSeparator.drop n).isPrefixOf recordSeparator = false := by decide
  have hlength := congrArg List.length h
  rw [List.length_append] at hlength
  have hpos := List.length_pos_iff.2 ha
  have hpos' := List.length_pos_iff.2 hb
  have hdrop : recordSeparator.drop a.length = b := by rw [h, List.drop_left]
  have hnot := hall a.length (by omega) hpos
  rw [hdrop] at hnot
  rw [← List.isPrefixOf_iff_prefix, hnot]
  exact Bool.false_ne_true

/-- If a record can be parted at the separator behind one line and behind a longer one, the lines
are the same. -/
theorem eq_nil_of_append_separator {ws vs : List String} {a s t : List Char}
    (hvs : (Words.toLine vs).toList = (Words.toLine ws).toList ++ a)
    (h : recordSeparator ++ s = a ++ (recordSeparator ++ t)) : a = [] := by
  rcases List.append_eq_append_iff.1 h with ⟨b, rfl, _⟩ | ⟨b, hb, hrest⟩
  · exact absurd hvs (toLine_ne_append_separator ws vs b)
  · -- The longer line would end in the middle of the separator.
    by_cases ha : a = []
    · exact ha
    · by_cases hnil : b = []
      · subst hnil
        rw [List.append_nil] at hb
        rw [← hb, ← List.append_nil recordSeparator] at hvs
        exact absurd hvs (toLine_ne_append_separator ws vs [])
      · have hprefix : b <+: recordSeparator := by
          refine List.prefix_of_prefix_length_le ⟨s, hrest.symm⟩ ⟨t, rfl⟩ ?_
          rw [hb, List.length_append]
          omega
        exact absurd hprefix (not_starts_with_separator ha hnil hb)

/-- The separator parts a record at one place only. -/
theorem append_separator_inj {ws vs : List String} {s t : List Char}
    (h : (Words.toLine ws).toList ++ (recordSeparator ++ s) =
      (Words.toLine vs).toList ++ (recordSeparator ++ t)) : ws = vs ∧ s = t := by
  have heq : (Words.toLine ws).toList = (Words.toLine vs).toList := by
    rcases List.append_eq_append_iff.1 h with ⟨a, ha, hrest⟩ | ⟨a, ha, hrest⟩
    · have hnil := eq_nil_of_append_separator ha hrest
      rw [ha, hnil, List.append_nil]
    · have hnil := eq_nil_of_append_separator ha hrest
      rw [ha, hnil, List.append_nil]
  have hline : Words.toLine ws = Words.toLine vs := String.toList_inj.1 heq
  constructor
  · rw [← Words.ofLine_toLine ws, hline, Words.ofLine_toLine]
  · rw [heq] at h
    exact List.append_cancel_left (List.append_cancel_left h)

namespace World

/-- A record: its first word, the arguments, the separator, and the rest of what is shown of the
redirections. -/
theorem exists_toList_commandRecord (c : Command) :
    ∃ rest, c.redirections.label.toList = "RedirectionSpec \x7b".toList ++ rest ∧
      (commandRecord c).toList =
        "argv: ".toList ++ ((Words.toLine c.args).toList ++ (recordSeparator ++ rest)) := by
  obtain ⟨rest, hlabel⟩ := c.redirections.exists_toList_label
  have hseparator :
      recordSeparator = " redirections: ".toList ++ "RedirectionSpec \x7b".toList := by decide
  refine ⟨rest, hlabel, ?_⟩
  simp only [commandRecord, String.toList_append, List.append_assoc, hlabel, hseparator]

/-- Two commands have the same record only if they have the same arguments and the same
redirections, whatever words and paths these are. -/
theorem commandRecord_eq_iff (as bs : List String) (r r' : Redirections) :
    commandRecord ⟨as, r⟩ = commandRecord ⟨bs, r'⟩ ↔ as = bs ∧ r = r' := by
  constructor
  · intro h
    obtain ⟨s, hs, hrecord⟩ := exists_toList_commandRecord ⟨as, r⟩
    obtain ⟨t, ht, hrecord'⟩ := exists_toList_commandRecord ⟨bs, r'⟩
    have hchars := congrArg String.toList h
    rw [hrecord, hrecord'] at hchars
    obtain ⟨hargs, hst⟩ := append_separator_inj (List.append_cancel_left hchars)
    refine ⟨hargs, ?_⟩
    -- The redirections are shown alike, then, and nothing follows them.
    have hlabel : r.label.toList ++ [] = r'.label.toList ++ [] := by
      rw [hs, ht, hst]
    exact (Redirections.selfDelimiting_label hlabel).1
  · rintro ⟨rfl, rfl⟩
    rfl

end World

end CommandShell
