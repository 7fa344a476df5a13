import CommandShell.Config
import CommandShell.Proofs.Toml.Keys

/-!
# Settings from the entries of a document

A document gives settings if all its entries fit: each has a known key and a value of the right
kind. Then every setting is what the document says, or its default, and the order of the entries
makes no difference. If an entry does not fit there are no settings at all, and the first such entry
says why, whatever stands before or after it.

* `setEntry_fits`, `setEntry_refused` — what one entry does.
* `ofEntries_eq_ok_iff`, `ofEntries_eq_error_iff` — what all of them do.
* `ofText_all_or_nothing` — the settings that the text of a document gives.
-/

namespace CommandShell.Config

open Toml (Table Value)

/-! ## What a document says -/

/-- The keys of the settings that are texts. -/
def textKeys : List String := ["prompt", "history_file", "log_file", "log_level"]

/-- The key of the setting that is a count. -/
def countKey : String := "history_size"

/-- An entry fits if it gives a text or a count to a setting of that kind. -/
inductive Fits : String × Value → Prop where
  | text {k : String} (hk : k ∈ textKeys) (t : String) : Fits (k, .string t)
  | count (n : Nat) : Fits (countKey, .integer n)

/-- The reasons for which an entry does not fit. -/
inductive Refused : String × Value → ConfigError → Prop where
  | unknownKey {k : String} (htext : k ∉ textKeys) (hcount : k ≠ countKey) (v : Value) :
      Refused (k, v) (.unknownKey k)
  | notText {k : String} {v : Value} (hk : k ∈ textKeys) (hv : ∀ t, v ≠ .string t) :
      Refused (k, v) (.wrongKind v .text)
  | notCount {v : Value} (hv : ∀ n, v ≠ .integer n) :
      Refused (countKey, v) (.wrongKind v .count)
  | negativeCount {n : Int} (hn : n < 0) : Refused (countKey, .integer n) (.negativeCount n)

/-- The first entry that does not fit is refused for the given reason. -/
def FirstRefused (es : Table) (e : ConfigError) : Prop :=
  ∃ before entry after, es = before ++ entry :: after ∧ (∀ b ∈ before, Fits b) ∧ Refused entry e

/-- The text that a value is, if it is one. -/
def text? : Value → Option String
  | .string t => some t
  | _ => none

/-- The count that a value is, if it is a number. -/
def count? : Value → Option Nat
  | .integer n => some n.toNat
  | _ => none

/-- The text that a document gives to a key. -/
def textAt (es : Table) (key : String) : Option String :=
  (es.lookup key).bind text?

/-- The count that a document gives to a key. -/
def countAt (es : Table) (key : String) : Option Nat :=
  (es.lookup key).bind count?

/-- Settings with those that a document gives in place of what they were. -/
def updated (c : Config) (es : Table) : Config where
  prompt := (textAt es "prompt").getD c.prompt
  historyFile := (textAt es "history_file").or c.historyFile
  historySize := (countAt es "history_size").getD c.historySize
  logFile := (textAt es "log_file").or c.logFile
  logLevel := (textAt es "log_level").getD c.logLevel

/-- The settings that a document gives, and the defaults of the others. -/
def given (es : Table) : Config where
  prompt := (textAt es "prompt").getD "$ "
  historyFile := textAt es "history_file"
  historySize := (countAt es "history_size").getD 1000
  logFile := textAt es "log_file"
  logLevel := (textAt es "log_level").getD "warn"

theorem updated_default (es : Table) : updated {} es = given es := by
  simp [updated, given]

/-! ## One entry -/

variable {entry : String × Value} {es es' : Table} {k : String}

/-- What is read for the key of a text. -/
theorem setEntry_textKey (c : Config) (hk : k ∈ textKeys) (v : Value) :
    setEntry c (k, v) = (text v).map fun t => c.updated [(k, .string t)] := by
  simp only [textKeys, List.mem_cons, List.not_mem_nil, or_false] at hk
  rcases hk with rfl | rfl | rfl | rfl
  · rfl
  · rfl
  · rfl
  · rfl

theorem setEntry_countKey (c : Config) (v : Value) :
    setEntry c (countKey, v) =
      (count v).map fun n : Nat => c.updated [(countKey, .integer n)] :=
  rfl

theorem setEntry_fits (c : Config) (h : Fits entry) :
    setEntry c entry = .ok (c.updated [entry]) := by
  cases h with
  | text hk t => exact setEntry_textKey c hk (.string t)
  | count n => exact setEntry_countKey c (.integer n)

theorem ofKey?_unknown (htext : k ∉ textKeys) (hcount : k ≠ countKey) :
    Setting.ofKey? k = none := by
  simp only [textKeys, List.mem_cons, List.not_mem_nil, or_false, not_or] at htext
  obtain ⟨hprompt, hhistory, hlog, hlevel⟩ := htext
  rw [Setting.ofKey?, List.find?_eq_none]
  intro s _
  rw [decide_eq_true_eq]
  cases s with
  | prompt => exact hprompt ∘ Eq.symm
  | historyFile => exact hhistory ∘ Eq.symm
  | historySize => exact hcount ∘ Eq.symm
  | logFile => exact hlog ∘ Eq.symm
  | logLevel => exact hlevel ∘ Eq.symm

theorem text_eq_error {v : Value} (hv : ∀ t, v ≠ .string t) :
    text v = .error (.wrongKind v .text) := by
  cases v with
  | string t => exact absurd rfl (hv t)
  | _ => rfl

theorem count_eq_error {v : Value} (hv : ∀ n, v ≠ .integer n) :
    count v = .error (.wrongKind v .count) := by
  cases v with
  | integer n => exact absurd rfl (hv n)
  | _ => rfl

/-- An entry that does not fit is refused, whatever the settings are so far. -/
theorem setEntry_refused (c : Config) {e : ConfigError} (h : Refused entry e) :
    setEntry c entry = .error e := by
  cases h with
  | unknownKey htext hcount v => rw [setEntry, ofKey?_unknown htext hcount]
  | @notText k v hk hv =>
    rw [setEntry_textKey c hk, text_eq_error hv]
    rfl
  | notCount hv =>
    rw [setEntry_countKey, count_eq_error hv]
    rfl
  | @negativeCount n hn =>
    have hcount : count (.integer n) = .error (.negativeCount n) := if_neg (by omega)
    rw [setEntry_countKey, hcount]
    rfl

theorem fits_or_refused (entry : String × Value) : Fits entry ∨ ∃ e, Refused entry e := by
  obtain ⟨k, v⟩ := entry
  by_cases hcount : k = countKey
  · subst hcount
    by_cases hv : ∃ n, v = .integer n
    · obtain ⟨n, rfl⟩ := hv
      by_cases hn : n < 0
      · exact Or.inr ⟨_, .negativeCount hn⟩
      · obtain ⟨m, rfl⟩ := Int.eq_ofNat_of_zero_le (Int.not_lt.1 hn)
        exact Or.inl (.count m)
    · exact Or.inr ⟨_, .notCount fun n hn => hv ⟨n, hn⟩⟩
  · -- The value matters only if the key is known.
    by_cases htext : k ∈ textKeys
    · by_cases hv : ∃ t, v = .string t
      · obtain ⟨t, rfl⟩ := hv
        exact Or.inl (.text htext t)
      · exact Or.inr ⟨_, .notText htext fun t ht => hv ⟨t, ht⟩⟩
    · exact Or.inr ⟨_, .unknownKey htext hcount v⟩

/-- An entry that is refused does not fit. -/
theorem Refused.not_fits {e : ConfigError} (h : Refused entry e) : ¬ Fits entry := by
  intro hfits
  have hok := setEntry_fits {} hfits
  rw [setEntry_refused {} h] at hok
  cases hok

/-! ## All entries -/

/-- What an entry gives is not given again by others with other keys. -/
theorem lookup_bind_cons {α : Type} (f : Value → Option α) (hkey : entry.1 ∉ es.map Prod.fst) :
    ((entry :: es).lookup k).bind f = ((es.lookup k).bind f).or (([entry].lookup k).bind f) := by
  obtain ⟨key, v⟩ := entry
  by_cases hk : k = key
  · subst hk
    rw [Toml.Table.lookup_eq_none_iff.2 hkey]
    simp
  · have hne : (k == key) = false := beq_false_of_ne hk
    simp [List.lookup_cons, hne]

theorem updated_cons (c : Config) (hkey : entry.1 ∉ es.map Prod.fst) :
    (c.updated [entry]).updated es = c.updated (entry :: es) := by
  simp only [updated, textAt, countAt, lookup_bind_cons _ hkey, Option.getD_or, Option.or_assoc]

/-- Entries that fit are all taken into the settings. -/
theorem foldlM_setEntry (hdistinct : es.Distinct) (hfits : ∀ e ∈ es, Fits e) (c : Config) :
    es.foldlM setEntry c = .ok (c.updated es) := by
  -- The induction is on the entries, for any settings so far. What the first entry gives is not
  -- given again, so it makes no difference that the others come on top of it.
  induction es generalizing c with
  | nil => simp [updated, textAt, countAt, pure, Except.pure]
  | cons entry es ih =>
    obtain ⟨hkey, hdistinct⟩ := List.nodup_cons.1 hdistinct
    obtain ⟨hentry, hfits⟩ := List.forall_mem_cons.1 hfits
    rw [List.foldlM_cons, setEntry_fits c hentry, ← updated_cons c hkey]
    exact ih hdistinct hfits _

/-- The first entry that does not fit ends the reading. -/
theorem foldlM_setEntry_refused {e : ConfigError} (h : FirstRefused es e) (c : Config) :
    es.foldlM setEntry c = .error e := by
  obtain ⟨before, entry, after, rfl, hbefore, hrefused⟩ := h
  -- The entries before it fit, and all that they change are the settings so far.
  induction before generalizing c with
  | nil =>
    rw [List.nil_append, List.foldlM_cons, setEntry_refused c hrefused]
    rfl
  | cons b before ih =>
    obtain ⟨hb, hbefore⟩ := List.forall_mem_cons.1 hbefore
    rw [List.cons_append, List.foldlM_cons, setEntry_fits c hb]
    exact ih _ hbefore

/-- Where not all entries fit, there is a first one that does not. -/
theorem fits_or_firstRefused (es : Table) : (∀ e ∈ es, Fits e) ∨ ∃ e, FirstRefused es e := by
  induction es with
  | nil => simp
  | cons entry es ih =>
    rcases fits_or_refused entry with hentry | ⟨e, hrefused⟩
    · rcases ih with hfits | ⟨e, before, first, after, rfl, hbefore, hrefused⟩
      · exact Or.inl (List.forall_mem_cons.2 ⟨hentry, hfits⟩)
      · exact Or.inr ⟨e, entry :: before, first, after, rfl,
          List.forall_mem_cons.2 ⟨hentry, hbefore⟩, hrefused⟩
    · exact Or.inr ⟨e, [], entry, es, rfl, by simp, hrefused⟩

theorem FirstRefused.not_fits {e : ConfigError} (h : FirstRefused es e) :
    ¬ ∀ entry ∈ es, Fits entry := by
  obtain ⟨before, entry, after, rfl, _, hrefused⟩ := h
  intro hfits
  exact hrefused.not_fits (hfits entry (by simp))

/-- Entries with distinct keys give settings exactly if they all fit. -/
theorem ofEntries_eq_ok_iff (hdistinct : es.Distinct) {c : Config} :
    ofEntries es = .ok c ↔ (∀ e ∈ es, Fits e) ∧ c = given es := by
  rcases fits_or_firstRefused es with hfits | ⟨e, hfirst⟩
  · rw [ofEntries, foldlM_setEntry hdistinct hfits, updated_default]
    constructor
    · intro h
      cases h
      exact ⟨hfits, rfl⟩
    · rintro ⟨_, rfl⟩
      rfl
  · rw [ofEntries, foldlM_setEntry_refused hfirst]
    constructor
    · intro h
      cases h
    · intro h
      exact absurd h.1 hfirst.not_fits

/-- Otherwise the first one that does not fit is to blame. -/
theorem ofEntries_eq_error_iff (hdistinct : es.Distinct) {e : ConfigError} :
    ofEntries es = .error e ↔ FirstRefused es e := by
  constructor
  · intro h
    rcases fits_or_firstRefused es with hfits | ⟨e', hfirst⟩
    · rw [(ofEntries_eq_ok_iff hdistinct).2 ⟨hfits, rfl⟩] at h
      cases h
    · have herror : ofEntries es = .error e' := foldlM_setEntry_refused hfirst {}
      rw [herror] at h
      cases h
      exact hfirst
  · intro h
    exact foldlM_setEntry_refused h {}

/-! ## The order of the entries -/

theorem lookup_eq_some_iff (hdistinct : es.Distinct) {v : Value} :
    es.lookup k = some v ↔ (k, v) ∈ es := by
  induction es with
  | nil => simp
  | cons entry es ih =>
    obtain ⟨key, u⟩ := entry
    obtain ⟨hkey, hdistinct⟩ := List.nodup_cons.1 hdistinct
    rw [List.lookup_cons, List.mem_cons, ← ih hdistinct]
    by_cases hk : k = key
    · subst hk
      have hnone := Toml.Table.lookup_eq_none_iff.2 hkey
      simp [hnone, eq_comm]
    · have hne : (k == key) = false := beq_false_of_ne hk
      simp [hne, hk]

/-- A document says the same in any order. -/
theorem lookup_perm (hperm : es'.Perm es) (hdistinct : es.Distinct) (k : String) :
    es'.lookup k = es.lookup k := by
  have hdistinct' : es'.Distinct := (hperm.map Prod.fst).nodup_iff.2 hdistinct
  refine Option.ext fun v => ?_
  rw [lookup_eq_some_iff hdistinct, lookup_eq_some_iff hdistinct', hperm.mem_iff]

theorem given_perm (hperm : es'.Perm es) (hdistinct : es.Distinct) : given es' = given es := by
  simp only [given, textAt, countAt, lookup_perm hperm hdistinct]

/-! ## Documents -/

theorem ofText_document {text : String} (h : Toml.Document.ofText? text = some es) :
    ofText text = ofEntries es := by
  rw [ofText, h]

/-- A document gives settings exactly if all its entries fit. Then every setting is what the
document says or its default, and a document with the same entries in another order gives the same.
Otherwise there are no settings, and the reason is that of the first entry that does not fit. -/
theorem ofText_all_or_nothing {text : String} (h : Toml.Document.ofText? text = some es) :
    ((∃ c, ofText text = .ok c) ↔ ∀ e ∈ es, Fits e) ∧
    (∀ c, ofText text = .ok c → c = given es ∧
      ∀ text' es', Toml.Document.ofText? text' = some es' → es'.Perm es →
        ofText text' = .ok c) ∧
    ∀ e, ofText text = .error e ↔ FirstRefused es e := by
  have hdistinct := Toml.Document.distinct_ofText? h
  rw [ofText_document h]
  refine ⟨?_, ?_, ?_⟩
  · constructor
    · rintro ⟨c, hc⟩
      exact ((ofEntries_eq_ok_iff hdistinct).1 hc).1
    · intro hfits
      exact ⟨_, (ofEntries_eq_ok_iff hdistinct).2 ⟨hfits, rfl⟩⟩
  · intro c hc
    obtain ⟨hfits, rfl⟩ := (ofEntries_eq_ok_iff hdistinct).1 hc
    refine ⟨rfl, ?_⟩
    intro text' es' h' hperm
    rw [ofText_document h', ofEntries_eq_ok_iff (Toml.Document.distinct_ofText? h')]
    exact ⟨fun e he => hfits e (hperm.mem_iff.1 he), (given_perm hperm hdistinct).symm⟩
  · intro e
    exact ofEntries_eq_error_iff hdistinct

/-- Two lines, of which the one for the prompt comes last. -/
def sizeThenPrompt : String :=
  "history_size = 50\nprompt = \"> \"\n"

/-- Two entries do not fit, and the first one is to blame. -/
def negativeSize : String :=
  "prompt = \"> \"\nhistory_size = -1\ncolour = true\n"

theorem ofText_order_and_first_error :
    ofText sizeThenPrompt = .ok { prompt := "> ", historySize := 50 } ∧
      (∃ es, Toml.Document.ofText? sizeThenPrompt = some es ∧ (∀ e ∈ es, Fits e) ∧
        given es = { prompt := "> ", historySize := 50 }) ∧
      ofText negativeSize = .error (.negativeCount (-1)) ∧
      ∃ es, Toml.Document.ofText? negativeSize = some es ∧
        FirstRefused es (.negativeCount (-1)) := by
  have hgood : ofText sizeThenPrompt = .ok { prompt := "> ", historySize := 50 } := by
    have hread : (ofText sizeThenPrompt).toOption =
        some { prompt := "> ", historySize := 50 } := by decide +kernel
    rcases hc : ofText sizeThenPrompt with e | c <;> rw [hc] at hread <;> cases hread
    rfl
  have hbad : ofText negativeSize = .error (.negativeCount (-1)) := by
    have hread : (match ofText negativeSize with
        | .error (.negativeCount n) => some n
        | _ => none) = some (-1) := by decide +kernel
    split at hread
    · next n hn =>
      cases hread
      exact hn
    · cases hread
  obtain ⟨es, hes⟩ := Option.isSome_iff_exists.1
    (show (Toml.Document.ofText? sizeThenPrompt).isSome by decide +kernel)
  obtain ⟨es', hes'⟩ := Option.isSome_iff_exists.1
    (show (Toml.Document.ofText? negativeSize).isSome by decide +kernel)
  obtain ⟨hfits, hgiven, _⟩ := ofText_all_or_nothing hes
  obtain ⟨_, _, hrefused⟩ := ofText_all_or_nothing hes'
  exact ⟨hgood, ⟨es, hes, hfits.1 ⟨_, hgood⟩, (hgiven _ hgood).1.symm⟩, hbad,
    es', hes', (hrefused _).1 hbad⟩

end CommandShell.Config
