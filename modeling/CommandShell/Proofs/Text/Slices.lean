import CommandShell.Text.Length

/-!
# Parts of a text between offsets

An offset in bytes may lie within a character, and then a text cannot be parted there. `slice?`
gives the part of a text between two offsets if there is one, and a text that is written as three
parts one after the other has each of them between the offsets where it begins and ends.

* `atBoundary_iff` — at a boundary a text is parted into two texts.
* `slice?_eq_some_iff` — which part of a text lies between two offsets.
-/

namespace CommandShell.Text

/-- A character begins or ends at an offset in bytes, or the text does. -/
def AtBoundary (s : String) (i : Nat) : Prop :=
  String.Pos.Raw.IsValid s ⟨i⟩

instance (s : String) (i : Nat) : Decidable (AtBoundary s i) :=
  inferInstanceAs (Decidable (String.Pos.Raw.IsValid s ⟨i⟩))

/-- The part of a text between two offsets in bytes, of which the first is not behind the second.
There is none if one of them lies within a character or behind the end of the text. -/
def slice? (s : String) (i j : Nat) : Option String :=
  if h : AtBoundary s i ∧ AtBoundary s j ∧ i ≤ j then
    some (String.extract ⟨⟨i⟩, h.1⟩ ⟨⟨j⟩, h.2.1⟩)
  else none

variable {s t : String} {i j : Nat}

theorem atBoundary_iff : AtBoundary s i ↔ ∃ a b, s = a ++ b ∧ a.utf8ByteSize = i := by
  rw [AtBoundary, String.Pos.Raw.isValid_iff_exists_append]
  constructor
  · rintro ⟨a, b, hs, hi⟩
    exact ⟨a, b, hs, (congrArg String.Pos.Raw.byteIdx hi).symm⟩
  · rintro ⟨a, b, hs, rfl⟩
    exact ⟨a, b, hs, rfl⟩

/-- A part lies between two offsets exactly if the text is what stands in front of it, the part
itself and what follows it, and the offsets are where it begins and ends. -/
theorem slice?_eq_some_iff :
    slice? s i j = some t ↔
      ∃ a b, s = a ++ t ++ b ∧ a.utf8ByteSize = i ∧ (a ++ t).utf8ByteSize = j := by
  unfold slice?
  constructor
  · intro h
    split at h
    · next hij =>
      obtain ⟨hi, hj, hle⟩ := hij
      have hslice := Option.some.inj h
      rw [String.extract_eq_copy_slice _ _ hle] at hslice
      obtain ⟨a, b, hleft, hright⟩ := String.copy_slice_eq_iff_splits.1 ⟨hle, hslice⟩
      refine ⟨a, b, hright.eq_append, ?_, ?_⟩
      · exact (congrArg String.Pos.Raw.byteIdx hleft.offset_eq_rawEndPos).symm
      · exact (congrArg String.Pos.Raw.byteIdx hright.offset_eq_rawEndPos).symm
    · cases h
  · rintro ⟨a, b, rfl, rfl, rfl⟩
    have hi : AtBoundary (a ++ t ++ b) a.utf8ByteSize :=
      atBoundary_iff.2 ⟨a, t ++ b, String.append_assoc, rfl⟩
    have hj : AtBoundary (a ++ t ++ b) (a ++ t).utf8ByteSize :=
      atBoundary_iff.2 ⟨a ++ t, b, rfl, rfl⟩
    have hle : a.utf8ByteSize ≤ (a ++ t).utf8ByteSize := by
      rw [String.utf8ByteSize_append]
      exact Nat.le_add_right _ _
    let first : (a ++ t ++ b).Pos := ⟨⟨a.utf8ByteSize⟩, hi⟩
    let last : (a ++ t ++ b).Pos := ⟨⟨(a ++ t).utf8ByteSize⟩, hj⟩
    have hfirst : first.Splits a (t ++ b) := ⟨String.append_assoc, rfl⟩
    have hlast : last.Splits (a ++ t) b := ⟨rfl, rfl⟩
    obtain ⟨_, hslice⟩ := String.copy_slice_eq_iff_splits.2 ⟨a, b, hfirst, hlast⟩
    rw [dif_pos ⟨hi, hj, hle⟩, String.extract_eq_copy_slice _ _ hle, hslice]

theorem slice?_append (a t b : String) :
    slice? (a ++ t ++ b) a.utf8ByteSize (a ++ t).utf8ByteSize = some t :=
  slice?_eq_some_iff.2 ⟨a, b, rfl, rfl, rfl⟩

/-- Within a character a text cannot be parted. -/
example : slice? "a\u3000b" 4 5 = some "b" ∧ slice? "a\u3000b" 2 5 = none := by
  decide +kernel

/-- What stands in front of an offset. -/
theorem slice?_zero_append (a b : String) : slice? (a ++ b) 0 a.utf8ByteSize = some a := by
  have hslice := slice?_append "" a b
  rwa [String.empty_append] at hslice

/-! ## Bytes of characters -/

theorem utf8ByteSize_ofList (cs : List Char) : (String.ofList cs).utf8ByteSize = byteLength cs := by
  induction cs with
  | nil => rfl
  | cons c cs ih =>
    have hsplit : String.ofList (c :: cs) = String.singleton c ++ String.ofList cs := by
      apply String.toList_injective
      simp
    rw [hsplit, String.utf8ByteSize_append, String.utf8ByteSize_singleton, ih]
    rfl

theorem byteLength_toList (s : String) : byteLength s.toList = s.utf8ByteSize := by
  rw [← utf8ByteSize_ofList, String.ofList_toList]

theorem takeBytes_append (a b : String) :
    takeBytes a.utf8ByteSize (a ++ b).toList = a.toList := by
  rw [← byteLength_toList, String.toList_append, takeBytes_byteLength]

end CommandShell.Text
