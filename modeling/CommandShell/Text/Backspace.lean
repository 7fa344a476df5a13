import CommandShell.Text.Cluster
import CommandShell.Text.Length

/-!
# Backspaces

A backspace in a line erases itself and the cluster before it, as if the line had been typed. A
cluster is erased by its length in bytes, of which only the lowest eight bits are kept: of a cluster
of 256 bytes or more a part stays, and where the rest would end within a character the line editor
breaks down. A line without a backspace stays as it is (`eraseBackspaces?_of_not_mem`).
-/

namespace CommandShell.Text

/-- The character that erases the cluster before it. -/
def backspace : Char := '\x08'

/-- The lengths of clusters are kept up to multiples of this number. -/
def lengthPeriod : Nat := 256

/-- What is left of the clusters so far. -/
structure Erasure where
  /-- The characters, the last one first. -/
  kept : List Char := []
  /-- The lengths of the clusters, the last one first. -/
  lengths : List Nat := []
  deriving DecidableEq, Repr

namespace Erasure

/-- Takes the next cluster, unless it cuts a character apart. -/
def step (e : Erasure) (cluster : List Char) : Option Erasure :=
  if cluster = [backspace] then
    match e.lengths with
    | [] => some e
    | n :: lengths => (dropBytes? n e.kept).map fun kept => ⟨kept, lengths⟩
  else some ⟨cluster.reverse ++ e.kept, byteLength cluster % lengthPeriod :: e.lengths⟩

/-- The characters that are left. -/
def text (e : Erasure) : List Char := e.kept.reverse

end Erasure

/-- What is left of characters when their backspaces have had their effect, unless one of them cuts
a character apart. -/
def eraseFrom? (cs : List Char) : Option (List Char) :=
  ((clusters cs).foldlM Erasure.step {}).map Erasure.text

/-- What is left of a line when its backspaces have had their effect, unless one of them cuts a
character apart. -/
def eraseBackspaces? (line : String) : Option String :=
  if line.toList.contains backspace then (eraseFrom? line.toList).map String.ofList else some line

theorem foldlM_step (e : Erasure) (ks : List (List Char)) (h : [backspace] ∉ ks) :
    ∃ e', ks.foldlM Erasure.step e = some e' ∧ e'.text = e.text ++ ks.flatten := by
  induction ks generalizing e with
  | nil => exact ⟨e, rfl, by simp⟩
  | cons k ks ih =>
    simp only [List.mem_cons, not_or] at h
    have hstep : e.step k =
        some ⟨k.reverse ++ e.kept, byteLength k % lengthPeriod :: e.lengths⟩ :=
      if_neg (Ne.symm h.1)
    obtain ⟨e', hrest, htext⟩ := ih ⟨k.reverse ++ e.kept, _⟩ h.2
    refine ⟨e', ?_, ?_⟩
    · rw [List.foldlM_cons, hstep]
      exact hrest
    · rw [htext]
      simp [Erasure.text]

theorem eraseFrom?_of_not_mem {cs : List Char} (h : backspace ∉ cs) : eraseFrom? cs = some cs := by
  have hk : [backspace] ∉ clusters cs := fun hm =>
    h (flatten_clusters cs ▸ List.mem_flatten_of_mem hm (List.mem_singleton_self _))
  obtain ⟨e, hrun, htext⟩ := foldlM_step {} _ hk
  rw [eraseFrom?, hrun, Option.map_some, htext, flatten_clusters]
  rfl

theorem eraseBackspaces?_of_not_mem {line : String} (h : backspace ∉ line.toList) :
    eraseBackspaces? line = some line := by
  simp [eraseBackspaces?, h]

end CommandShell.Text
