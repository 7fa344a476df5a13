import CommandShell.Text.Displayed

/-!
# Texts that tell where they end

What is written for a value is often followed by something else. Then the value can be told only if
the writing tells where it ends: no written form is the beginning of another one. A text in double
quotes does so, since no character inside is shown as a quote that stands alone.

* `selfDelimiting_displayChar` — a single character as it is shown between quotes.
* `selfDelimiting_display` — a text between quotes.
-/

namespace CommandShell.Text

/-- Values are written in a way that tells where each ends: whatever follows, the value and what
follows it can be told from the whole. -/
def SelfDelimiting {α : Type} (write : α → List Char) : Prop :=
  ∀ ⦃a b : α⦄ ⦃s t : List Char⦄, write a ++ s = write b ++ t → a = b ∧ s = t

/-- A mark that does not occur before tells where a text ends. -/
theorem append_mark_inj {x : Char} {a b s t : List Char} (ha : x ∉ a) (hb : x ∉ b)
    (h : a ++ x :: s = b ++ x :: t) : a = b ∧ s = t := by
  induction a generalizing b with
  | nil =>
    cases b with
    | nil => exact ⟨rfl, (List.cons.inj h).2⟩
    | cons c b =>
      obtain ⟨rfl, _⟩ := List.cons.inj h
      exact absurd List.mem_cons_self hb
  | cons c a ih =>
    cases b with
    | nil =>
      obtain ⟨rfl, _⟩ := List.cons.inj h
      exact absurd List.mem_cons_self ha
    | cons d b =>
      obtain ⟨rfl, hrest⟩ := List.cons.inj h
      rw [List.mem_cons, not_or] at ha hb
      obtain ⟨rfl, hst⟩ := ih ha.2 hb.2 hrest
      exact ⟨rfl, hst⟩

/-- Values written one after the other, and a mark at the end that begins none of them. -/
theorem SelfDelimiting.flatMap_mark {α : Type} {write : α → List Char} (h : SelfDelimiting write)
    {x : Char} (hmark : ∀ a s t, write a ++ s ≠ x :: t) {as bs : List α} {s t : List Char}
    (heq : as.flatMap write ++ x :: s = bs.flatMap write ++ x :: t) : as = bs ∧ s = t := by
  induction as generalizing bs with
  | nil =>
    cases bs with
    | nil => exact ⟨rfl, (List.cons.inj heq).2⟩
    | cons b bs =>
      rw [List.flatMap_cons, List.append_assoc] at heq
      exact absurd heq.symm (hmark b _ _)
  | cons a as ih =>
    rw [List.flatMap_cons, List.append_assoc] at heq
    cases bs with
    | nil => exact absurd heq (hmark a _ _)
    | cons b bs =>
      rw [List.flatMap_cons, List.append_assoc] at heq
      obtain ⟨rfl, hrest⟩ := h heq
      obtain ⟨rfl, hst⟩ := ih hrest
      exact ⟨rfl, hst⟩

/-! ## Numbers in base sixteen -/

theorem digitChar_injective {n m : Nat} (hn : n < 16) (hm : m < 16)
    (h : n.digitChar = m.digitChar) : n = m := by
  have hall : ∀ n < 16, ∀ m < 16, Nat.digitChar n = Nat.digitChar m → n = m := by decide
  exact hall n hn m hm h

/-- A number has its last digit behind those of a sixteenth of it. -/
theorem hex_eq (n : Nat) :
    hex n = if n < 16 then [n.digitChar] else hex (n / 16) ++ [(n % 16).digitChar] :=
  Nat.toDigits_eq_if (by omega)

theorem hex_ne_nil (n : Nat) : hex n ≠ [] :=
  List.ne_nil_of_length_pos Nat.length_toDigits_pos

theorem hex_injective {n m : Nat} (h : hex n = hex m) : n = m := by
  induction n using Nat.strongRecOn generalizing m with
  | ind n ih =>
    rw [hex_eq n, hex_eq m] at h
    by_cases hn : n < 16
    · by_cases hm : m < 16
      · rw [if_pos hn, if_pos hm] at h
        exact digitChar_injective hn hm (List.cons.inj h).1
      · rw [if_pos hn, if_neg hm, ← List.nil_append [n.digitChar]] at h
        exact absurd (List.append_inj_left' h rfl).symm (hex_ne_nil _)
    · by_cases hm : m < 16
      · rw [if_neg hn, if_pos hm, ← List.nil_append [m.digitChar]] at h
        exact absurd (List.append_inj_left' h rfl) (hex_ne_nil _)
      · rw [if_neg hn, if_neg hm] at h
        obtain ⟨hquotient, hdigit⟩ := List.append_inj' h rfl
        have hdiv : n / 16 = m / 16 := ih (n / 16) (by omega) hquotient
        have hmod : n % 16 = m % 16 :=
          digitChar_injective (by omega) (by omega) (List.cons.inj hdigit).1
        omega

theorem brace_not_mem_hex (n : Nat) : '\x7d' ∉ hex n := by
  induction n using Nat.strongRecOn with
  | ind n ih =>
    have hdigit : ∀ k : Nat, k.digitChar ≠ '\x7d' := fun k => Nat.digitChar_ne _ (by decide)
    rw [hex_eq]
    split
    · intro hmem
      exact hdigit n (List.mem_singleton.1 hmem).symm
    · intro hmem
      rcases List.mem_append.1 hmem with hbefore | hlast
      · exact ih (n / 16) (by omega) hbefore
      · exact hdigit (n % 16) (List.mem_singleton.1 hlast).symm

/-! ## Characters between quotes -/

/-- The letters that stand behind a backslash for a character that has no mark of its own, or has
another meaning between quotes. -/
def namedEscapes : List (Char × Char) :=
  [('0', '\x00'), ('t', '\t'), ('r', '\r'), ('n', '\n'), ('\\', '\\'), ('"', '"')]

/-- `Shown c l`: the character `c` is shown as `l` in one of the three ways there are. -/
inductive Shown (c : Char) : List Char → Prop where
  | plain (hb : c ≠ '\\') (hq : c ≠ '"') : Shown c [c]
  | named {k : Char} (hk : (k, c) ∈ namedEscapes) : Shown c ['\\', k]
  | numbered : Shown c ('\\' :: 'u' :: '\x7b' :: (hex c.toNat ++ ['\x7d']))

theorem shown_displayChar (c : Char) : Shown c (displayChar c) := by
  have named : ∀ {k d : Char}, (k, d) ∈ namedEscapes → c = d → Shown c ['\\', k] := by
    rintro k d hk rfl
    exact .named hk
  unfold displayChar
  split
  · next h => exact named (by decide) h
  split
  · next h => exact named (by decide) h
  split
  · next h => exact named (by decide) h
  split
  · next h => exact named (by decide) h
  split
  · next h => exact named (by decide) h
  · next hb =>
    split
    · next h => exact named (by decide) h
    · next hq =>
      split
      · exact .numbered
      · exact .plain hb hq

/-- No character is shown as something that begins with a quote. -/
theorem Shown.ne_quote {c : Char} {l : List Char} (h : Shown c l) (s t : List Char) :
    l ++ s ≠ '"' :: t := by
  cases h with
  | plain _ hq =>
    intro heq
    exact hq (List.cons.inj heq).1
  | named => simp
  | numbered => simp

/-- The way in which a character is shown tells the character and where it ends. -/
theorem Shown.inj {c d : Char} {l m s t : List Char} (hc : Shown c l) (hd : Shown d m)
    (h : l ++ s = m ++ t) : c = d ∧ s = t := by
  cases hc with
  | plain hb =>
    cases hd with
    | plain => exact List.cons.inj h
    | named => exact absurd (List.cons.inj h).1 hb
    | numbered => exact absurd (List.cons.inj h).1 hb
  | @named k hk =>
    cases hd with
    | plain hb => exact absurd (List.cons.inj h).1.symm hb
    | @named k' hk' =>
      obtain ⟨rfl, hst⟩ := List.cons.inj (List.cons.inj h).2
      have hall : ∀ p ∈ namedEscapes, ∀ q ∈ namedEscapes, p.1 = q.1 → p.2 = q.2 := by decide
      exact ⟨hall _ hk _ hk' rfl, hst⟩
    | numbered =>
      obtain ⟨rfl, _⟩ := List.cons.inj (List.cons.inj h).2
      have hnot : ∀ p ∈ namedEscapes, p.1 ≠ 'u' := by decide
      exact absurd rfl (hnot _ hk)
  | numbered =>
    cases hd with
    | plain hb => exact absurd (List.cons.inj h).1.symm hb
    | named hk =>
      obtain ⟨rfl, _⟩ := List.cons.inj (List.cons.inj h).2
      have hnot : ∀ p ∈ namedEscapes, p.1 ≠ 'u' := by decide
      exact absurd rfl (hnot _ hk)
    | numbered =>
      simp only [List.cons_append, List.append_assoc, List.nil_append, List.cons.injEq,
        true_and] at h
      obtain ⟨hhex, hst⟩ := append_mark_inj (brace_not_mem_hex _) (brace_not_mem_hex _) h
      exact ⟨Char.toNat_inj.1 (hex_injective hhex), hst⟩

theorem selfDelimiting_displayChar : SelfDelimiting displayChar := by
  intro c d s t h
  exact (shown_displayChar c).inj (shown_displayChar d) h

/-- A text between quotes tells where it ends. -/
theorem selfDelimiting_display : SelfDelimiting fun s : String => (display s).toList := by
  intro a b s t h
  simp only [display, String.toList_ofList, List.cons_append, List.append_assoc, List.cons.injEq,
    true_and] at h
  obtain ⟨hchars, hst⟩ :=
    selfDelimiting_displayChar.flatMap_mark (fun c s t => (shown_displayChar c).ne_quote s t) h
  exact ⟨String.toList_inj.1 hchars, hst⟩

end CommandShell.Text
