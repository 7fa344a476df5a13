import CommandShell.Proofs.Words.Kept
import Mathlib.Data.List.Infix

/-!
# The toggle of double quotes

In double quotes the toggle of a reader tells whether the number of `\"` since the opening quote is
odd. It is down everywhere else: quotes are closed only while it is down, and a new word begins with
a fresh state. So nothing is left of it when the next double quotes are opened, and a reader that
does not put it down there reads the same words.

* `turned_step` — what one character does to the quotes and to the toggle.
* `Contained.run` — outside double quotes the toggle is down.
* `exists_opened` — a reader in double quotes has read the quote that opened them.
* `swallow_of_opened` — what the toggle says there.
* `Contained.foldl_stepUnreset` — the reader that does not put the toggle down is the same one.
* `toggle_stays_in_double_quotes` — all of this for any line.
-/

namespace CommandShell.Words

open Text (isBlank)

/-- How many `\"` stand in the text of double quotes. Read from the left, a backslash belongs
together with the character behind it; where it escapes nothing, that character is no backslash and
no quote. -/
def escapedQuotes : List Char → Nat
  | '\\' :: '"' :: s => escapedQuotes s + 1
  | '\\' :: _ :: s => escapedQuotes s
  | _ :: s => escapedQuotes s
  | [] => 0

namespace Reader

variable {r r' : Reader} {c : Char} {p s : List Char}

/-! ## One character -/

/-- What becomes of the quotes and of the toggle when a character is read. -/
inductive Turned (r : Reader) (c : Char) : Quoting → Bool → Prop where
  | kept : Turned r c r.quoting r.swallow
  /-- The end of a word leaves a fresh state. -/
  | fresh : Turned r c .bare false
  | openedSingle (hq : r.quoting = .bare) : Turned r c .single r.swallow
  | openedDouble (hfree : r.Free) (hc : c = '"') : Turned r c .double false
  | closedSingle (hq : r.quoting = .single) : Turned r c .bare r.swallow
  /-- Double quotes are closed only while the toggle is down. -/
  | closedDouble (hdown : r.swallow = false) : Turned r c .bare r.swallow
  | escaped (hq : r.quoting = .double) (swallow : Bool) : Turned r c .double swallow

theorem turned_stepBare (h : r.Free) (c : Char) :
    Turned r c (r.stepBare c).quoting (r.stepBare c).swallow := by
  unfold stepBare
  split
  · unfold endWord
    split
    · exact .kept
    · exact .fresh
  · split
    · exact .kept
    · split
      · exact .openedSingle h.quoting
      · split
        · next hd => exact .openedDouble h hd
        · exact .kept

theorem turned_stepDouble (r : Reader) (c : Char) :
    Turned r c (r.stepDouble c).quoting (r.stepDouble c).swallow := by
  unfold stepDouble
  split
  · exact .kept
  · split
    · split
      · exact .kept
      · next hdown => exact .closedDouble (by simpa using hdown)
    · exact .kept

theorem turned_step (r : Reader) (c : Char) :
    Turned r c (r.step c).quoting (r.step c).swallow := by
  unfold step
  split
  · exact .kept
  · next hq he => exact turned_stepBare ⟨hq, he⟩ c
  · next hq =>
    split
    · exact .closedSingle hq
    · exact .kept
  · next hq _ =>
    split
    · change Turned r c r.quoting (r.swallow ^^ (c = '"'))
      rw [hq]
      exact .escaped hq _
    · exact .kept
  · exact turned_stepDouble r c

/-! ## Outside double quotes -/

/-- The toggle of a reader is down unless it stands in double quotes. -/
def Contained (r : Reader) : Prop :=
  r.quoting ≠ .double → r.swallow = false

/-- No character takes a toggle that is up out of double quotes. -/
theorem Contained.step (h : r.Contained) (c : Char) : (r.step c).Contained := by
  intro hnot
  have hturned := r.turned_step c
  generalize (r.step c).quoting = quoting, (r.step c).swallow = swallow at hturned hnot ⊢
  cases hturned with
  | kept => exact h hnot
  | fresh => rfl
  | openedSingle hq => exact h (by rw [hq]; decide)
  | openedDouble => rfl
  | closedSingle hq => exact h (by rw [hq]; decide)
  | closedDouble hdown => exact hdown
  | escaped => exact absurd rfl hnot

theorem Contained.run (h : r.Contained) (cs : List Char) : (r.run cs).Contained := by
  induction cs generalizing r with
  | nil => exact h
  | cons c cs ih => exact ih (h.step c)

theorem contained_run (cs : List Char) : (Reader.run {} cs).Contained :=
  Contained.run (fun _ => rfl) cs

/-! ## In double quotes -/

/-- A reader that stands in double quotes still does so at each place of a text, and at its end. -/
def StaysDouble (r : Reader) (s : List Char) : Prop :=
  ∀ t, t <+: s → (r.run t).quoting = .double

theorem StaysDouble.quoting (h : r.StaysDouble s) : r.quoting = .double :=
  h [] s.nil_prefix

/-- What holds of a text holds of the part of it behind its first characters. -/
theorem StaysDouble.behind (h : r.StaysDouble (p ++ s)) (hp : r.run p = r') :
    r'.StaysDouble s := by
  intro t ht
  rw [← hp, ← run_append]
  exact h (p ++ t) ((List.prefix_append_right_inj p).2 ht)

theorem StaysDouble.concat (h : r.StaysDouble s) (hlast : (r.run (s ++ [c])).quoting = .double) :
    r.StaysDouble (s ++ [c]) := by
  intro t ht
  rcases List.prefix_concat_iff.1 ht with rfl | ht
  · exact hlast
  · exact h t ht

/-- A backslash and the character behind it are read as a pair, which adds to the number of `\"`
only if it is one. -/
theorem exists_run_pair (d : List (List Char)) (w : List Char) (n : Nat) (hq : c ≠ '"') :
    ∃ w', (inDouble d w n).run ['\\', c] = inDouble d w' n := by
  by_cases hescaped : c = '$' ∨ c = '\\'
  · exact ⟨c :: w, step_step_inDouble_escaped d w n hescaped⟩
  · rw [not_or] at hescaped
    obtain ⟨hdollar, hb⟩ := hescaped
    refine ⟨c :: '\\' :: w, ?_⟩
    rw [run_cons, run_cons, run_nil, step_step_inDouble_backslash d w n ⟨hdollar, hb, hq⟩,
      step_inDouble_other d _ n hb hq]

/-- As long as double quotes stay open, the toggle counts the `\"` in them. -/
theorem swallow_run_inDouble {d : List (List Char)} {w : List Char} {n : Nat}
    (h : (inDouble d w n).StaysDouble s) :
    ((inDouble d w n).run s).swallow = decide ((n + escapedQuotes s) % 2 = 1) := by
  -- The induction is the counting: a backslash and what follows it at a time, else one character.
  fun_induction escapedQuotes s generalizing w n with
  | case1 s ih =>
    have hpair : (inDouble d w n).run ['\\', '"'] = inDouble d ('"' :: w) (n + 1) :=
      step_step_inDouble_escapedQuote d w n
    change (((inDouble d w n).run ['\\', '"']).run s).swallow = _
    rw [hpair, ih (h.behind hpair), Nat.add_right_comm, Nat.add_assoc]
  | case2 c s hquote ih =>
    obtain ⟨w', hpair⟩ := exists_run_pair d w n hquote
    change (((inDouble d w n).run ['\\', c]).run s).swallow = _
    rw [hpair, ih (h.behind hpair)]
  | case3 c s hpair hother ih =>
    have hrest : ((inDouble d w n).step c).StaysDouble s := h.behind (p := [c]) rfl
    by_cases hb : c = '\\'
    · -- The text ends in a backslash, which still waits.
      cases s with
      | nil =>
        subst hb
        rfl
      | cons e s => exact absurd rfl (hother e s hb)
    · by_cases hq : c = '"'
      · subst hq
        rcases Nat.mod_two_eq_zero_or_one n with heven | hodd
        · -- The quotes would have been closed.
          rw [step_inDouble_close d w n heven] at hrest
          cases hrest.quoting
        · rw [step_inDouble_dropped d w n hodd] at hrest
          rw [run_cons, step_inDouble_dropped d w n hodd, ih hrest]
      · rw [step_inDouble_other d w n hb hq] at hrest
        rw [run_cons, step_inDouble_other d w n hb hq, ih hrest]
  | case4 => rfl

/-- Behind the text `p`, which ends outside quotes, a quote has opened double quotes, and they are
still open behind the text `s`. -/
structure Opened (p s : List Char) : Prop where
  free : (Reader.run {} p).Free
  stays : (Reader.run {} (p ++ ['"'])).StaysDouble s

theorem Free.step_quote (h : r.Free) : r.step '"' = inDouble r.done (r.word.getD []) 0 := by
  have hblank : isBlank '"' = false := by decide
  rw [h.step, stepBare, if_neg (by simp [hblank]), if_neg (by decide), if_neg (by decide),
    if_pos rfl]
  simp [begin, inDouble, h.escaping]

/-- Only a quote that is read outside quotes leads into double quotes. -/
theorem double_of_step (h : (r.step c).quoting = .double) :
    r.quoting = .double ∨ r.Free ∧ c = '"' := by
  have hturned := r.turned_step c
  generalize (r.step c).quoting = quoting, (r.step c).swallow = swallow at hturned h
  cases hturned with
  | kept => exact Or.inl h
  | openedDouble hfree hc => exact Or.inr ⟨hfree, hc⟩
  | escaped hq => exact Or.inl hq
  | fresh => cases h
  | openedSingle => cases h
  | closedSingle => cases h
  | closedDouble => cases h

/-- A reader in double quotes has read an opening quote, and has been in double quotes since. -/
theorem exists_opened {cs : List Char} (h : (Reader.run {} cs).quoting = .double) :
    ∃ p s, cs = p ++ '"' :: s ∧ Opened p s := by
  induction cs using List.reverseRecOn with
  | nil => cases h
  | append_singleton cs c ih =>
    have hstep := h
    rw [run_append, run_cons, run_nil] at hstep
    rcases double_of_step hstep with hdouble | ⟨hfree, rfl⟩
    · -- The quotes had been opened before the last character.
      rcases ih hdouble with ⟨p, s, rfl, hopened⟩
      refine ⟨p, s ++ [c], by simp, hopened.free, hopened.stays.concat ?_⟩
      simpa using h
    · -- The last character opens them.
      refine ⟨cs, [], rfl, hfree, ?_⟩
      intro t ht
      rw [List.prefix_nil.1 ht]
      exact h

/-- In double quotes the toggle is up exactly if the number of `\"` since they opened is odd. -/
theorem swallow_of_opened (h : Opened p s) :
    (Reader.run {} (p ++ '"' :: s)).swallow = decide (escapedQuotes s % 2 = 1) := by
  -- The toggle is put down at the opening quote, and the count begins there.
  have hquote : Reader.run {} (p ++ ['"']) =
      inDouble (Reader.run {} p).done ((Reader.run {} p).word.getD []) 0 := by
    rw [run_append]
    exact h.free.step_quote
  have hstays := h.stays
  rw [hquote] at hstays
  have hsplit : p ++ '"' :: s = (p ++ ['"']) ++ s := by simp
  rw [hsplit, run_append, hquote, swallow_run_inDouble hstays, Nat.zero_add]

/-! ## Without putting the toggle down -/

/-- Takes the next character, and leaves the toggle as it is where double quotes are opened. -/
def stepUnreset (r : Reader) (c : Char) : Reader :=
  if r.quoting = .bare ∧ r.escaping = false ∧ c = '"' then { r.begin with quoting := .double }
  else r.step c

/-- A toggle that is down already need not be put down. -/
theorem Contained.stepUnreset_eq (h : r.Contained) (c : Char) : r.stepUnreset c = r.step c := by
  unfold stepUnreset
  split
  · next hopens =>
    obtain ⟨hq, he, rfl⟩ := hopens
    have hfree : r.Free := ⟨hq, he⟩
    have hdown : r.swallow = false := h (by rw [hq]; decide)
    rw [hfree.step_quote]
    simp [begin, inDouble, he, hdown]
  · rfl

/-- The two readers are in the same state all along a line. -/
theorem Contained.foldl_stepUnreset (h : r.Contained) (cs : List Char) :
    cs.foldl stepUnreset r = r.run cs := by
  induction cs generalizing r with
  | nil => rfl
  | cons c cs ih => rw [List.foldl_cons, h.stepUnreset_eq, ih (h.step c), run_cons]

/-- They are different readers: they would part if a toggle were up outside double quotes. -/
example :
    ({ swallow := true } : Reader).stepUnreset '"' ≠ ({ swallow := true } : Reader).step '"' := by
  decide

end Reader

/-- The words of a line, read without putting the toggle down where double quotes are opened. -/
def ofLineUnreset (line : String) : List String :=
  (line.toList.foldl Reader.stepUnreset {}).finish.map String.ofList

/-! ## Any line -/

/-- Wherever a reader stands in a line, its toggle is down outside double quotes. In double quotes,
where a quote has been read that opened them and they have not been closed since, the toggle is up
exactly if the number of `\"` behind that quote is odd. So the toggle is down whenever double quotes
are opened, and without putting it down there a line is read as the same words. -/
theorem toggle_stays_in_double_quotes :
    (∀ cs, (Reader.run {} cs).quoting ≠ .double → (Reader.run {} cs).swallow = false) ∧
      (∀ cs, (Reader.run {} cs).quoting = .double →
        ∃ p s, cs = p ++ '"' :: s ∧ Reader.Opened p s) ∧
      (∀ p s, Reader.Opened p s →
        ((Reader.run {} (p ++ '"' :: s)).swallow = true ↔ escapedQuotes s % 2 = 1)) ∧
      ∀ line, ofLineUnreset line = ofLine line := by
  refine ⟨Reader.contained_run, fun _ => Reader.exists_opened, ?_, ?_⟩
  · intro p s hopened
    rw [Reader.swallow_of_opened hopened, decide_eq_true_eq]
  · intro line
    have hstart : Reader.Contained {} := fun _ => rfl
    rw [ofLineUnreset, hstart.foldl_stepUnreset]
    rfl

/-- Behind one `\"` a quote does not close double quotes, and the blank behind it stays quoted. -/
theorem toggle_stays_in_double_quotes_unpaired :
    Reader.Opened "echo ".toList "a\\\"b\" c".toList ∧
      (Reader.run {} ("echo ".toList ++ '"' :: "a\\\"b\" c".toList)).swallow = true ∧
      ofLineUnreset "echo \"a\\\"b\" c" = ["echo", "a\"b c"] := by
  have hopened : Reader.Opened "echo ".toList "a\\\"b\" c".toList := by
    refine ⟨⟨by decide, by decide⟩, ?_⟩
    have hall : ∀ t ∈ "a\\\"b\" c".toList.inits,
        ((Reader.run {} ("echo ".toList ++ ['"'])).run t).quoting = .double := by decide
    intro t ht
    exact hall t ((List.mem_inits t _).2 ht)
  exact ⟨hopened, (toggle_stays_in_double_quotes.2.2.1 _ _ hopened).2 (by decide),
    (toggle_stays_in_double_quotes.2.2.2 _).trans (by decide)⟩

end CommandShell.Words
