import CommandShell.Toml.Document
import Mathlib.Data.List.Nodup

/-!
# No key stands twice

However the keys, the dotted keys and the headers of a document follow each other, the table that
they make lists each of its keys once.

* `distinct_update` — a change below a path keeps the keys of a table distinct.
* `Partial.Sound.step` — so does each expression of a document.
* `distinct_ofText?` — the keys of a document are distinct.
-/

namespace CommandShell.Toml

/-- Each key of a table stands there once. -/
def Table.Distinct (t : Table) : Prop :=
  (t.map Prod.fst).Nodup

namespace Table

variable {t t' : Table} {key : String} {v : Value} {path : List String}

theorem lookup_eq_none_iff : t.lookup key = none ↔ key ∉ t.map Prod.fst := by
  rw [List.lookup_eq_none_iff, List.mem_map]
  constructor
  · rintro h ⟨e, he, rfl⟩
    simpa using h e he
  · intro h e he
    simpa using fun heq => h ⟨e, he, heq.symm⟩

theorem Distinct.append (h : t.Distinct) (hkey : t.lookup key = none) :
    Distinct (t ++ [(key, v)]) := by
  rw [Distinct, List.map_append, List.nodup_append]
  refine ⟨h, List.nodup_singleton key, ?_⟩
  intro a ha b hb hab
  rw [List.map_singleton, List.mem_singleton] at hb
  subst hab hb
  exact lookup_eq_none_iff.1 hkey ha

theorem Distinct.replace (h : t.Distinct) (key : String) (v : Value) :
    Distinct (t.replace key v) := by
  have hkeys : (t.replace key v).map Prod.fst = t.map Prod.fst := by
    rw [Table.replace, List.map_map]
    refine List.map_congr_left fun e _ => ?_
    rw [Function.comp_apply]
    split
    · next heq => exact heq.symm
    · rfl
  rw [Distinct, hkeys]
  exact h

theorem Distinct.add (h : t.Distinct) (hadd : t.add key v = some t') : t'.Distinct := by
  rw [Table.add] at hadd
  split at hadd
  · cases hadd
  next hkey =>
    cases hadd
    exact h.append (Option.not_isSome_iff_eq_none.1 hkey)

/-- What a path leads to may be changed as long as the change itself keeps keys distinct. -/
theorem distinct_update {α : Type} {a : α} {through origin : Origin}
    {change : Origin → Table → Option (Table × α)}
    (hchange : ∀ o u u' a, change o u = some (u', a) → u.Distinct → u'.Distinct)
    (h : update through change path origin t = some (t', a)) (ht : t.Distinct) : t'.Distinct := by
  cases path with
  | nil => exact hchange _ _ _ _ h ht
  | cons key path =>
    -- The change is made further below: here its table stands under a new key or under its own.
    rw [update] at h
    split at h
    · next hkey =>
      obtain ⟨⟨inner, b⟩, _, heq⟩ := Option.bind_eq_some_iff.1 h
      cases heq
      exact ht.append hkey
    · split at h
      · obtain ⟨⟨inner, b⟩, _, heq⟩ := Option.bind_eq_some_iff.1 h
        cases heq
        exact ht.replace _ _
      · cases h
    · obtain ⟨⟨latest, b⟩, _, heq⟩ := Option.bind_eq_some_iff.1 h
      cases heq
      exact ht.replace _ _
    · cases h

/-- The same if only the table is kept. -/
theorem Distinct.update {α : Type} {through origin : Origin}
    {change : Origin → Table → Option (Table × α)} (h : t.Distinct)
    (hupdate : (update through change path origin t).bind (fun (u, _) => some u) = some t')
    (hchange : ∀ o u u' a, change o u = some (u', a) → u.Distinct → u'.Distinct) :
    t'.Distinct := by
  obtain ⟨⟨u, a⟩, hupdate, heq⟩ := Option.bind_eq_some_iff.1 hupdate
  cases heq
  exact distinct_update hchange hupdate h

theorem Distinct.insert (h : t.Distinct) (hinsert : t.insert path v = some t') : t'.Distinct := by
  obtain ⟨key, _, hrest⟩ := Option.bind_eq_some_iff.1 hinsert
  refine h.update hrest ?_
  intro o u u' _ hchange hu
  split at hchange
  · obtain ⟨u'', hadd, heq⟩ := Option.map_eq_some_iff.1 hchange
    cases heq
    exact hu.add hadd
  · cases hchange

theorem Distinct.take {inner : Table} (h : t.Distinct) (htake : t.take path = some (t', inner)) :
    t'.Distinct := by
  obtain ⟨key, _, hupdate⟩ := Option.bind_eq_some_iff.1 htake
  refine distinct_update ?_ hupdate h
  intro o u u' _ hchange hu
  split at hchange
  · cases hchange
    exact hu
  · cases hchange
    exact hu.sublist (List.filter_sublist.map _)
  · cases hchange

theorem Distinct.define {inner : Table} (h : t.Distinct) (hdefine : t.define path inner = some t') :
    t'.Distinct := by
  obtain ⟨key, _, hrest⟩ := Option.bind_eq_some_iff.1 hdefine
  refine h.update hrest ?_
  intro o u u' _ hchange hu
  obtain ⟨u'', hadd, heq⟩ := Option.map_eq_some_iff.1 hchange
  cases heq
  exact hu.add hadd

theorem Distinct.extend {inner : Table} (h : t.Distinct) (hextend : t.extend path inner = some t') :
    t'.Distinct := by
  obtain ⟨key, _, hrest⟩ := Option.bind_eq_some_iff.1 hextend
  refine h.update hrest ?_
  intro o u u' _ hchange hu
  split at hchange
  · next hkey =>
    cases hchange
    exact hu.append hkey
  · cases hchange
    exact hu.replace _ _
  · cases hchange

end Table

namespace Document

/-- The keys that will be those of the document are distinct: the entries in front of the first
header, and after it the table to which those of the headers are added. -/
def Partial.Sound (p : Partial) : Prop :=
  match p.header? with
  | none => p.current.Distinct
  | some _ => p.top.Distinct

variable {p p' : Partial}

theorem Partial.Sound.close {t : Table} (h : p.Sound) (hclose : p.close = some t) :
    t.Distinct := by
  rw [Partial.Sound] at h
  rw [Partial.close] at hclose
  split at hclose
  · next hheader =>
    rw [hheader] at h
    cases hclose
    exact h
  · next hheader =>
    rw [hheader] at h
    exact h.extend hclose
  · next hheader =>
    rw [hheader] at h
    exact h.define hclose

theorem Partial.Sound.step {e : Expression} (h : p.Sound) (hstep : p.step e = some p') :
    p'.Sound := by
  cases e with
  | entry path v =>
    obtain ⟨t, hinsert, rfl⟩ := Option.map_eq_some_iff.1 hstep
    rw [Partial.Sound] at h ⊢
    cases hheader : p.header? with
    | none =>
      rw [hheader] at h
      exact h.insert hinsert
    | some header =>
      rw [hheader] at h
      exact h
  | header path further =>
    cases further with
    | true =>
      obtain ⟨top, hclose, rfl⟩ := Option.map_eq_some_iff.1 hstep
      exact h.close hclose
    | false =>
      obtain ⟨top, hclose, htaken⟩ := Option.bind_eq_some_iff.1 hstep
      obtain ⟨⟨top', inner⟩, htake, rfl⟩ := Option.map_eq_some_iff.1 htaken
      exact (h.close hclose).take htake

theorem Partial.Sound.steps {es : List Expression} (h : p.Sound)
    (hsteps : es.foldlM Partial.step p = some p') : p'.Sound := by
  induction es generalizing p with
  | nil =>
    cases hsteps
    exact h
  | cons e es ih =>
    rw [List.foldlM_cons] at hsteps
    obtain ⟨q, hstep, hrest⟩ := Option.bind_eq_some_iff.1 hsteps
    exact ih (h.step hstep) hrest

/-- The keys of a document are distinct. -/
theorem distinct_ofText? {text : String} {t : Table} (h : ofText? text = some t) :
    t.Distinct := by
  obtain ⟨es, _, hassemble⟩ := Option.bind_eq_some_iff.1 h
  obtain ⟨p, hsteps, hclose⟩ := Option.bind_eq_some_iff.1 hassemble
  have hempty : Partial.Sound {} := List.nodup_nil
  exact (hempty.steps hsteps).close hclose

end Document

end CommandShell.Toml
