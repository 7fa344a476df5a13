import CommandShell.History
import CommandShell.Proofs.Text.Encoding
import CommandShell.Text.Backspace

/-!
# The lines of a text

Lines are cut from bytes. The bytes of a text are cut into the bytes of texts, which are its lines
as one would cut them from its characters: each ends at a line feed or at a carriage return and a
line feed, and the last one may lack its end.

* `lines_encode` — the lines of the bytes of a text are those of its characters.
* `linesOf_append` — the lines of complete lines and of what follows them.
* `linesOf_line` — a line with its end is a line.
* `mem_of_mem_linesOf`, `mem_of_mem_eraseBackspaces` — a line has no characters of its own.
-/

namespace CommandShell.Text

/-! ## Pieces -/

theorem mem_of_mem_splitOn {sep : Char} {cs p : List Char} (hp : p ∈ cs.splitOn sep) {c : Char}
    (hc : c ∈ p) : c ∈ cs := by
  induction cs generalizing p with
  | nil =>
    obtain rfl := List.mem_singleton.1 hp
    exact hc
  | cons d cs ih =>
    obtain ⟨q, qs, hq⟩ := List.exists_cons_of_ne_nil (List.splitOn_ne_nil sep cs)
    rw [List.splitOn_cons_eq_if_modifyHead] at hp
    rw [hq] at hp ih
    split at hp
    · rcases List.mem_cons.1 hp with rfl | hp
      · cases hc
      · exact List.mem_cons_of_mem d (ih hp hc)
    · rcases List.mem_cons.1 hp with rfl | hp
      · rcases List.mem_cons.1 hc with rfl | hc
        · exact List.mem_cons_self
        · exact List.mem_cons_of_mem d (ih List.mem_cons_self hc)
      · exact List.mem_cons_of_mem d (ih (List.mem_cons_of_mem q hp) hc)

/-! ## Lines -/

/-- A line without the carriage return that belongs to its end. -/
def withoutReturn (l : List Char) : List Char :=
  if l.getLast? = some '\r' then l.dropLast else l

/-- The lines of a sequence of characters, without their ends. -/
def lineChars (cs : List Char) : List (List Char) :=
  let ps := cs.splitOn '\n'
  ps.dropLast.map withoutReturn ++ ps.getLast?.toList.filter fun l => !l.isEmpty

/-- The lines of a text, without their ends. -/
def linesOf (s : String) : List String :=
  (lineChars s.toList).map String.ofList

theorem withoutReturn_of_ne {l : List Char} (h : l.getLast? ≠ some '\r') : withoutReturn l = l :=
  if_neg h

theorem encode_withoutReturn (l : List Char) :
    Utf8.encode (String.ofList (withoutReturn l)) =
      if (Utf8.encode (String.ofList l)).getLast? = some 0x0D then
        (Utf8.encode (String.ofList l)).dropLast
      else Utf8.encode (String.ofList l) := by
  have hreturn : '\r'.toNat < 0x80 := by decide
  have hbyte : Utf8.asciiByte '\r' = 0x0D := rfl
  have hlast := Utf8.getLast?_encode hreturn (String.ofList l)
  rw [String.toList_ofList, hbyte] at hlast
  by_cases h : l.getLast? = some '\r'
  · rw [withoutReturn, if_pos h, if_pos (hlast.2 h), Utf8.dropLast_encode hreturn h]
  · rw [withoutReturn, if_neg h, if_neg fun hend => h (hlast.1 hend)]

theorem isEmpty_encode (cs : List Char) :
    (Utf8.encode (String.ofList cs)).isEmpty = cs.isEmpty := by
  cases cs with
  | nil => rfl
  | cons c cs =>
    rw [List.isEmpty_cons, List.isEmpty_eq_false_iff, Ne, Utf8.encode_eq_nil]
    intro h
    have hchars := congrArg String.toList h
    rw [String.toList_ofList] at hchars
    cases hchars

/-- The lines of the bytes of a text are the bytes of its lines. -/
theorem lines_encode (s : String) : lines (Utf8.encode s) = (linesOf s).map Utf8.encode := by
  have hpieces : Path.pieces 0x0A (Utf8.encode s) =
      (s.toList.splitOn '\n').map fun p => Utf8.encode (String.ofList p) := by
    have hcut := Utf8.splitOn_encode (show '\n'.toNat < 0x80 by decide) s.toList
    rwa [String.ofList_toList] at hcut
  simp only [lines, linesOf, lineChars, hpieces, List.map_append, List.map_map]
  congr 1
  · rw [← List.map_dropLast, List.map_map]
    exact List.map_congr_left fun p _ => (encode_withoutReturn p).symm
  · rw [List.getLast?_map]
    cases (s.toList.splitOn '\n').getLast? with
    | none => rfl
    | some p =>
      simp only [Option.map_some, Option.toList_some, List.filter_cons, List.filter_nil,
        isEmpty_encode]
      split <;> rfl

theorem lineChars_append_newline (a b : List Char) :
    lineChars (a ++ '\n' :: b) = (a.splitOn '\n').map withoutReturn ++ lineChars b := by
  have hne : b.splitOn '\n' ≠ [] := List.splitOn_ne_nil '\n' b
  simp only [lineChars, List.splitOn_append_cons_self, List.dropLast_append_of_ne_nil hne,
    List.map_append, List.getLast?_append, List.getLast?_eq_some_getLast hne, Option.some_or,
    List.append_assoc]

/-- The lines of complete lines are followed by those of what follows. -/
theorem linesOf_append {s : String} (h : s = "" ∨ s.toList.getLast? = some '\n') (t : String) :
    linesOf (s ++ t) = linesOf s ++ linesOf t := by
  rcases h with rfl | h
  · rw [String.empty_append]
    rfl
  · obtain ⟨a, ha⟩ := List.getLast?_eq_some_iff.1 h
    have hempty : lineChars [] = [] := rfl
    simp only [linesOf, String.toList_append, ha, List.append_assoc, List.singleton_append,
      lineChars_append_newline, hempty, List.append_nil, List.map_append]

/-- A line with its end is a line. -/
theorem linesOf_line {l : String} (hfeed : '\n' ∉ l.toList)
    (hreturn : l.toList.getLast? ≠ some '\r') (t : String) :
    linesOf (l ++ "\n" ++ t) = l :: linesOf t := by
  have hnewline : "\n".toList = ['\n'] := rfl
  simp only [linesOf, String.toList_append, hnewline, List.append_assoc, List.singleton_append,
    lineChars_append_newline, List.splitOn_eq_singleton hfeed, List.map_cons, List.map_nil,
    withoutReturn_of_ne hreturn, String.ofList_toList]

/-! ## No characters of its own -/

theorem mem_of_mem_linesOf {s l : String} (hl : l ∈ linesOf s) {c : Char} (hc : c ∈ l.toList) :
    c ∈ s.toList := by
  obtain ⟨p, hp, rfl⟩ := List.mem_map.1 hl
  rw [String.toList_ofList] at hc
  rcases List.mem_append.1 hp with hended | hlast
  · obtain ⟨q, hq, rfl⟩ := List.mem_map.1 hended
    refine mem_of_mem_splitOn (List.dropLast_subset _ hq) ?_
    rw [withoutReturn] at hc
    split at hc
    · exact List.dropLast_subset _ hc
    · exact hc
  · obtain ⟨hlast, _⟩ := List.mem_filter.1 hlast
    exact mem_of_mem_splitOn (List.mem_of_getLast? (Option.mem_toList.1 hlast)) hc

theorem mem_of_mem_dropBytes? {n : Nat} {cs rest : List Char} (h : dropBytes? n cs = some rest)
    {c : Char} (hc : c ∈ rest) : c ∈ cs := by
  rw [dropBytes?] at h
  split at h
  · cases h
    rw [← takeBytes_append_dropBytes n cs]
    exact List.mem_append_right _ hc
  · cases h

/-- What is kept once a cluster has been taken is of what was kept before, or of the cluster. -/
theorem mem_of_mem_step {k : List Char} {e e' : Erasure} (h : e.step k = some e') {c : Char}
    (hc : c ∈ e'.kept) : c ∈ e.kept ∨ c ∈ k := by
  rw [Erasure.step] at h
  split at h
  · split at h
    · cases h
      exact Or.inl hc
    · obtain ⟨rest, hrest, rfl⟩ := Option.map_eq_some_iff.1 h
      exact Or.inl (mem_of_mem_dropBytes? hrest hc)
  · cases h
    rcases List.mem_append.1 hc with hk | hkept
    · exact Or.inr (List.mem_reverse.1 hk)
    · exact Or.inl hkept

theorem mem_of_mem_foldlM_step {ks : List (List Char)} {e e' : Erasure}
    (h : ks.foldlM Erasure.step e = some e') {c : Char} (hc : c ∈ e'.kept) :
    c ∈ e.kept ∨ c ∈ ks.flatten := by
  induction ks generalizing e with
  | nil =>
    cases h
    exact Or.inl hc
  | cons k ks ih =>
    rw [List.foldlM_cons] at h
    obtain ⟨e₁, hstep, hrest⟩ := Option.bind_eq_some_iff.1 h
    rw [List.flatten_cons, List.mem_append]
    rcases ih hrest with hkept | hmem
    · exact (mem_of_mem_step hstep hkept).imp_right Or.inl
    · exact Or.inr (Or.inr hmem)

theorem mem_of_mem_eraseBackspaces {line left : String} (h : eraseBackspaces? line = some left)
    {c : Char} (hc : c ∈ left.toList) : c ∈ line.toList := by
  rw [eraseBackspaces?] at h
  split at h
  · obtain ⟨cs, hcs, rfl⟩ := Option.map_eq_some_iff.1 h
    rw [eraseFrom?] at hcs
    obtain ⟨e, hrun, rfl⟩ := Option.map_eq_some_iff.1 hcs
    rw [String.toList_ofList, Erasure.text, List.mem_reverse] at hc
    rcases mem_of_mem_foldlM_step hrun hc with hnone | hmem
    · cases hnone
    · rwa [flatten_clusters] at hmem
  · cases h
    exact hc

end CommandShell.Text
