import CommandShell.Number.Signed
import Mathlib.Data.Nat.Digits.Defs

/-!
# The numbers that a text spells

A number is spelled by an optional sign and one or more decimal digits. `Spells` says so by the
positional system, without reading anything. A text is read as a number exactly if it spells it,
however many zeros stand in front, and of the limits of 32 bits only the number itself has to keep
within: a reader that has no more than 32 bits and checks every step of its way reads the same.

* `signed?_eq_some_iff` — a number is read exactly where it is spelled.
* `signed32?_eq_some_iff` — so is one within the limits of 32 bits.
* `checked32?_eq` — no step on the way leaves the limits unless the number does.
-/

namespace CommandShell.Number

variable {c : Char} {cs : List Char} {d m n : Nat} {k : Int}

/-- The value of decimal digits, the last of which counts ones. -/
def decimal (cs : List Char) : Nat :=
  Nat.ofDigits 10 (cs.reverse.map fun c => c.toNat - 0x30)

/-- There are one or more characters, all of them decimal digits, and `n` is their value. -/
structure Numeral (cs : List Char) (n : Nat) : Prop where
  nonempty : cs ≠ []
  digits : ∀ c ∈ cs, '0' ≤ c ∧ c ≤ '9'
  value : n = decimal cs

/-- The characters are a numeral with or without a sign, and `k` is the number that they spell. -/
inductive Spells : List Char → Int → Prop where
  | unsigned {cs : List Char} {n : Nat} (h : Numeral cs n) : Spells cs n
  | plus {cs : List Char} {n : Nat} (h : Numeral cs n) : Spells ('+' :: cs) n
  | minus {cs : List Char} {n : Nat} (h : Numeral cs n) : Spells ('-' :: cs) (-n)

/-! ## Digits -/

theorem digitValue?_eq_some_iff :
    digitValue? c = some d ↔ ('0' ≤ c ∧ c ≤ '9') ∧ d = c.toNat - 0x30 := by
  have hdigit : c.isDigit = true ↔ '0' ≤ c ∧ c ≤ '9' := by
    simp [Char.isDigit, Char.le_def]
  unfold digitValue?
  rw [← hdigit]
  split
  · next h => simp [h, eq_comm]
  · next h => simp [h]

/-- Each digit that follows moves a digit by one place. -/
theorem decimal_cons (c : Char) (cs : List Char) :
    decimal (c :: cs) = (c.toNat - 0x30) * 10 ^ cs.length + decimal cs := by
  simp only [decimal, List.reverse_cons, List.map_append, List.map_cons, List.map_nil,
    Nat.ofDigits_append, Nat.ofDigits_singleton, List.length_map, List.length_reverse]
  rw [Nat.mul_comm, Nat.add_comm]

/-- Digits that are read behind a number move it by as many places. -/
theorem digitsFrom?_eq_some_iff : digitsFrom? n cs = some m ↔
    (∀ c ∈ cs, '0' ≤ c ∧ c ≤ '9') ∧ m = n * 10 ^ cs.length + decimal cs := by
  induction cs generalizing n with
  | nil => simp [digitsFrom?, decimal, eq_comm]
  | cons c cs ih =>
    have hplaces : n * 10 ^ (c :: cs).length + decimal (c :: cs) =
        (10 * n + (c.toNat - 0x30)) * 10 ^ cs.length + decimal cs := by
      rw [decimal_cons, List.length_cons]
      ring
    rw [digitsFrom?, Option.bind_eq_some_iff, hplaces, List.forall_mem_cons]
    constructor
    · rintro ⟨d, hd, hrest⟩
      obtain ⟨hdigit, rfl⟩ := digitValue?_eq_some_iff.1 hd
      obtain ⟨hdigits, hvalue⟩ := ih.1 hrest
      exact ⟨⟨hdigit, hdigits⟩, hvalue⟩
    · rintro ⟨⟨hdigit, hdigits⟩, hvalue⟩
      exact ⟨c.toNat - 0x30, digitValue?_eq_some_iff.2 ⟨hdigit, rfl⟩, ih.2 ⟨hdigits, hvalue⟩⟩

theorem digits?_eq_some_iff : digits? cs = some n ↔ Numeral cs n := by
  cases cs with
  | nil =>
    constructor
    · intro h
      cases h
    · intro h
      exact absurd rfl h.nonempty
  | cons c cs =>
    have hread : digits? (c :: cs) = digitsFrom? 0 (c :: cs) := rfl
    rw [hread, digitsFrom?_eq_some_iff, Nat.zero_mul, Nat.zero_add]
    constructor
    · intro h
      exact ⟨List.cons_ne_nil c cs, h.1, h.2⟩
    · intro h
      exact ⟨h.digits, h.value⟩

/-! ## Signs -/

theorem not_numeral_sign (h : c = '+' ∨ c = '-') : ¬ Numeral (c :: cs) n := by
  intro hnumeral
  have hdigit := hnumeral.digits c List.mem_cons_self
  rcases h with rfl | rfl
  · exact absurd hdigit (by decide)
  · exact absurd hdigit (by decide)

/-- A number is read exactly where it is spelled. -/
theorem signed?_eq_some_iff : signed? cs = some k ↔ Spells cs k := by
  constructor
  · intro h
    unfold signed? at h
    split at h
    · obtain ⟨n, hn, rfl⟩ := Option.map_eq_some_iff.1 h
      exact .plus (digits?_eq_some_iff.1 hn)
    · obtain ⟨n, hn, rfl⟩ := Option.map_eq_some_iff.1 h
      exact .minus (digits?_eq_some_iff.1 hn)
    · obtain ⟨n, hn, rfl⟩ := Option.map_eq_some_iff.1 h
      exact .unsigned (digits?_eq_some_iff.1 hn)
  · intro h
    cases h with
    | plus h =>
      rw [signed?, digits?_eq_some_iff.2 h]
      rfl
    | minus h =>
      rw [signed?, digits?_eq_some_iff.2 h]
      rfl
    | unsigned h =>
      -- Without a sign the characters are digits, and no sign is one.
      rw [signed?, digits?_eq_some_iff.2 h]
      · rfl
      · rintro rest rfl
        exact not_numeral_sign (Or.inl rfl) h
      · rintro rest rfl
        exact not_numeral_sign (Or.inr rfl) h

/-! ## Limits -/

/-- A number is within the limits of 32 bits with a sign. -/
def Fits32 (k : Int) : Prop :=
  -2 ^ 31 ≤ k ∧ k ≤ 2 ^ 31 - 1

instance (k : Int) : Decidable (Fits32 k) :=
  inferInstanceAs (Decidable (_ ∧ _))

theorem signed32?_eq (s : String) :
    signed32? s = (signed? s.toList).filter fun k => decide (Fits32 k) := by
  unfold signed32?
  congr 1
  funext k
  rw [← Bool.decide_and]
  rfl

/-- A number within the limits of 32 bits is read exactly where it is spelled. -/
theorem signed32?_eq_some_iff {s : String} :
    signed32? s = some k ↔ Spells s.toList k ∧ Fits32 k := by
  rw [signed32?_eq, Option.filter_eq_some_iff, signed?_eq_some_iff, decide_eq_true_eq]

/-- Keeps a number in 32 bits, if it fits. -/
def keep32? (k : Int) : Option Int :=
  if Fits32 k then some k else none

/-- Reads digits behind a number, towards the side of a sign, and keeps what each step gives in 32
bits. -/
def checkedFrom? (sign k : Int) : List Char → Option Int
  | [] => some k
  | c :: cs => do
    let d ← digitValue? c
    let shifted ← keep32? (10 * k)
    let next ← keep32? (shifted + sign * d)
    checkedFrom? sign next cs

/-- Reads one or more digits, and keeps what each step gives in 32 bits. -/
def checkedDigits? (sign : Int) : List Char → Option Int
  | [] => none
  | cs => checkedFrom? sign 0 cs

/-- Reads an optional sign and digits, and keeps what each step gives in 32 bits. -/
def checked32? (s : String) : Option Int :=
  match s.toList with
  | '+' :: cs => checkedDigits? 1 cs
  | '-' :: cs => checkedDigits? (-1) cs
  | cs => checkedDigits? 1 cs

/-- Digits that are read behind a number make it no smaller. -/
theorem le_of_digitsFrom? (h : digitsFrom? n cs = some m) : n ≤ m := by
  obtain ⟨_, rfl⟩ := digitsFrom?_eq_some_iff.1 h
  have hpos : 0 < 10 ^ cs.length := Nat.pow_pos (by omega)
  exact Nat.le_add_right_of_le (Nat.le_mul_of_pos_right n hpos)

/-- A number that is nearer to zero than one within the limits is within them, too. -/
theorem Fits32.of_le {sign : Int} (hsign : sign = 1 ∨ sign = -1) (h : Fits32 (sign * n))
    (hle : m ≤ n) : Fits32 (sign * m) := by
  unfold Fits32 at h ⊢
  rcases hsign with rfl | rfl
  · omega
  · omega

/-- The check between the two halves of a step can be left out. -/
theorem checkedFrom?_cons {sign : Int} (hsign : sign = 1 ∨ sign = -1)
    (hdigit : digitValue? c = some d) (n : Nat) (cs : List Char) :
    checkedFrom? sign (sign * n) (c :: cs) =
      (keep32? (sign * (10 * n + d : Nat))).bind fun next => checkedFrom? sign next cs := by
  have hshift : 10 * (sign * (n : Int)) = sign * (10 * n : Nat) := by
    push_cast
    ring
  have hnext : sign * (10 * n : Nat) + sign * (d : Int) = sign * (10 * n + d : Nat) := by
    push_cast
    ring
  simp only [checkedFrom?, hdigit, Option.bind_eq_bind, Option.bind_some, hshift]
  by_cases hshifted : Fits32 (sign * (10 * n : Nat))
  · have hkeep : keep32? (sign * (10 * n : Nat)) = some (sign * (10 * n : Nat)) := if_pos hshifted
    rw [hkeep, Option.bind_some, hnext]
  · have hstep : ¬ Fits32 (sign * (10 * n + d : Nat)) := by
      intro hstep
      exact hshifted (hstep.of_le hsign (Nat.le_add_right _ _))
    simp only [keep32?, if_neg hshifted, if_neg hstep, Option.bind_none]

/-- A check after each step refuses exactly the numbers that a check at the end refuses: on the way
the numbers only grow. -/
theorem checkedFrom?_eq {sign : Int} (hsign : sign = 1 ∨ sign = -1) (hfits : Fits32 (sign * n))
    (cs : List Char) :
    checkedFrom? sign (sign * n) cs =
      ((digitsFrom? n cs).map fun m : Nat => sign * m).filter fun k => decide (Fits32 k) := by
  -- The induction is on the digits that are left; the number read so far is within the limits.
  induction cs generalizing n with
  | nil => simp [checkedFrom?, digitsFrom?, Option.filter_some, hfits]
  | cons c cs ih =>
    cases hdigit : digitValue? c with
    | none => simp [checkedFrom?, digitsFrom?, hdigit]
    | some d =>
      rw [checkedFrom?_cons hsign hdigit, digitsFrom?, hdigit, Option.bind_some]
      by_cases hstep : Fits32 (sign * (10 * n + d : Nat))
      · rw [keep32?, if_pos hstep, Option.bind_some, ih hstep]
      · -- What follows cannot lead back within the limits.
        rw [keep32?, if_neg hstep, Option.bind_none, eq_comm, Option.filter_eq_none_iff]
        intro k hk hend
        obtain ⟨m, hm, rfl⟩ := Option.map_eq_some_iff.1 hk
        exact hstep ((of_decide_eq_true hend).of_le hsign (le_of_digitsFrom? hm))

theorem checkedDigits?_eq {sign : Int} (hsign : sign = 1 ∨ sign = -1) (cs : List Char) :
    checkedDigits? sign cs =
      ((digits? cs).map fun n : Nat => sign * n).filter fun k => decide (Fits32 k) := by
  cases cs with
  | nil => rfl
  | cons c cs =>
    have hzero : sign * (0 : Nat) = 0 := by simp
    have hfits : Fits32 (sign * (0 : Nat)) := by
      rw [hzero]
      decide
    have hread := checkedFrom?_eq hsign hfits (c :: cs)
    rwa [hzero] at hread

/-- A reader with 32 bits reads the same numbers. -/
theorem checked32?_eq (s : String) : checked32? s = signed32? s := by
  have hplus := checkedDigits?_eq (Or.inl rfl)
  have hminus := checkedDigits?_eq (Or.inr rfl)
  simp only [Int.one_mul, Int.neg_one_mul] at hplus hminus
  rw [signed32?_eq, checked32?]
  generalize s.toList = cs
  split
  · exact hplus _
  · exact hminus _
  · next noPlus noMinus =>
    rw [signed?]
    · exact hplus cs
    · exact noPlus
    · exact noMinus

end CommandShell.Number
