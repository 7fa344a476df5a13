import CommandShell.Text.Backspace

/-!
# What a backspace erases

A backspace erases the cluster before it. This is so as long as no cluster takes as many bytes as
the lengths are kept up to. Of a longer one a backspace erases too little, or breaks the line editor
down.

* `step_ofClusters` — one more cluster.
* `eraseBackspaces?_of_short` — what is left of a line without long clusters.
-/

namespace CommandShell.Text

/-! ## Clusters that are left -/

/-- The clusters that are left after one more, the last one first. -/
def afterCluster (kept : List (List Char)) (cluster : List Char) : List (List Char) :=
  if cluster = [backspace] then kept.tail else cluster :: kept

/-- The clusters that are left when each backspace has erased the one before it. -/
def leftOf (ks : List (List Char)) : List (List Char) :=
  (ks.foldl afterCluster []).reverse

/-- Clusters, the last one first, as they are kept. -/
def Erasure.ofClusters (kept : List (List Char)) : Erasure :=
  ⟨(kept.map List.reverse).flatten, kept.map byteLength⟩

theorem text_ofClusters (kept : List (List Char)) :
    (Erasure.ofClusters kept).text = kept.reverse.flatten := by
  have htwice : List.reverse ∘ List.reverse = (id : List Char → List Char) :=
    funext List.reverse_reverse
  show (kept.map List.reverse).flatten.reverse = _
  rw [List.reverse_flatten, List.map_map, htwice, List.map_id]

/-! ## Erasing -/

theorem byteLength_reverse (cs : List Char) : byteLength cs.reverse = byteLength cs := by
  induction cs with
  | nil => rfl
  | cons c cs ih =>
    rw [List.reverse_cons, byteLength_append, ih, Nat.add_comm]
    rfl

theorem dropBytes?_byteLength (cs rest : List Char) :
    dropBytes? (byteLength cs) (cs ++ rest) = some rest := by
  have htake := takeBytes_byteLength cs rest
  have hsplit := takeBytes_append_dropBytes (byteLength cs) (cs ++ rest)
  rw [htake] at hsplit
  rw [dropBytes?, htake, if_pos rfl, List.append_cancel_left hsplit]

/-- A backspace erases the last of the clusters that are left, and any other cluster is kept. -/
theorem step_ofClusters {k : List Char} (hshort : byteLength k < lengthPeriod)
    (kept : List (List Char)) :
    (Erasure.ofClusters kept).step k = some (.ofClusters (afterCluster kept k)) := by
  by_cases hk : k = [backspace]
  · subst hk
    cases kept with
    | nil => rfl
    | cons last kept =>
      have hdrop := dropBytes?_byteLength last.reverse (kept.map List.reverse).flatten
      rw [byteLength_reverse] at hdrop
      simp [Erasure.step, Erasure.ofClusters, afterCluster, hdrop]
  · simp [Erasure.step, Erasure.ofClusters, afterCluster, hk, Nat.mod_eq_of_lt hshort]

theorem foldlM_step_ofClusters {ks : List (List Char)} (h : ∀ k ∈ ks, byteLength k < lengthPeriod)
    (kept : List (List Char)) :
    ks.foldlM Erasure.step (.ofClusters kept) =
      some (.ofClusters (ks.foldl afterCluster kept)) := by
  induction ks generalizing kept with
  | nil => rfl
  | cons k ks ih =>
    rw [List.foldlM_cons, step_ofClusters (h k List.mem_cons_self), List.foldl_cons]
    exact ih (fun x hx => h x (List.mem_cons_of_mem k hx)) _

theorem eraseFrom?_of_short {cs : List Char} (h : ∀ k ∈ clusters cs, byteLength k < lengthPeriod) :
    eraseFrom? cs = some (leftOf (clusters cs)).flatten := by
  have hrun := foldlM_step_ofClusters h []
  rw [eraseFrom?]
  exact (congrArg (Option.map Erasure.text) hrun).trans (congrArg some (text_ofClusters _))

/-- In a line without long clusters each backspace erases the cluster before it. -/
theorem eraseBackspaces?_of_short {line : String}
    (h : ∀ k ∈ clusters line.toList, byteLength k < lengthPeriod) :
    eraseBackspaces? line = some (String.ofList (leftOf (clusters line.toList)).flatten) := by
  have herase := eraseFrom?_of_short h
  by_cases hback : backspace ∈ line.toList
  · rw [eraseBackspaces?, if_pos (List.contains_iff_mem.2 hback), herase]
    rfl
  · rw [eraseFrom?_of_not_mem hback] at herase
    rw [eraseBackspaces?_of_not_mem hback, ← Option.some.inj herase, String.ofList_toList]

/-- A letter with 130 accents takes 261 bytes. To erase five of them would cut an accent apart. -/
example : eraseFrom? ('e' :: List.replicate 130 '\u0301' ++ [backspace]) = none := by
  decide +kernel

end CommandShell.Text
