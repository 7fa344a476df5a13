/-!
# The length of texts in bytes

A character takes one to four bytes. `takeBytes` and `dropBytes` split a text at a number of
bytes; a character that lies on both sides counts to the second part, and `dropBytes?` refuses to
cut it.
-/

namespace CommandShell.Text

/-- How many bytes characters take. -/
def byteLength (cs : List Char) : Nat :=
  cs.foldr (fun c n => c.utf8Size + n) 0

/-- The characters within the first so many bytes. -/
def takeBytes : Nat → List Char → List Char
  | _, [] => []
  | n, c :: cs => if c.utf8Size ≤ n then c :: takeBytes (n - c.utf8Size) cs else []

/-- The characters that are not within the first so many bytes. -/
def dropBytes : Nat → List Char → List Char
  | _, [] => []
  | n, c :: cs => if c.utf8Size ≤ n then dropBytes (n - c.utf8Size) cs else c :: cs

/-- The characters after the first so many bytes, unless these end within a character. -/
def dropBytes? (n : Nat) (cs : List Char) : Option (List Char) :=
  if byteLength (takeBytes n cs) = n then some (dropBytes n cs) else none

theorem byteLength_append (cs ds : List Char) :
    byteLength (cs ++ ds) = byteLength cs + byteLength ds := by
  induction cs with
  | nil => simp [byteLength]
  | cons c cs ih =>
    rw [List.cons_append]
    simp only [byteLength, List.foldr_cons] at ih ⊢
    rw [ih, Nat.add_assoc]

theorem takeBytes_append_dropBytes (n : Nat) (cs : List Char) :
    takeBytes n cs ++ dropBytes n cs = cs := by
  induction cs generalizing n with
  | nil => rfl
  | cons c cs ih =>
    unfold takeBytes dropBytes
    split
    · simp [ih]
    · rfl

theorem byteLength_takeBytes_le (n : Nat) (cs : List Char) : byteLength (takeBytes n cs) ≤ n := by
  induction cs generalizing n with
  | nil => simp [takeBytes, byteLength]
  | cons c cs ih =>
    unfold takeBytes
    split
    · have := ih (n - c.utf8Size)
      simp only [byteLength, List.foldr_cons] at this ⊢
      omega
    · simp [byteLength]

/-- A text that begins with some characters has them within the bytes that they take. -/
theorem takeBytes_byteLength (cs rest : List Char) :
    takeBytes (byteLength cs) (cs ++ rest) = cs := by
  induction cs with
  | nil =>
    cases rest with
    | nil => rfl
    | cons c rest =>
      have hpos := c.utf8Size_pos
      rw [byteLength, List.foldr_nil, List.nil_append, takeBytes, if_neg (by omega)]
  | cons c cs ih =>
    have hlength : byteLength (c :: cs) = c.utf8Size + byteLength cs := rfl
    rw [hlength, List.cons_append, takeBytes, if_pos (by omega), Nat.add_sub_cancel_left, ih]

end CommandShell.Text
