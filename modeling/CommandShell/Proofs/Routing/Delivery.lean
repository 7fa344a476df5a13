import CommandShell.Proofs.World.Logged
import CommandShell.Routing

/-!
# Output is delivered once

When the output of a command has been routed, each stream has reached its target or its console
once, behind what was kept there, and nothing else has changed. The log is a file like any other:
each opening of a target adds a record to it if the logger lets the record through, and the
statements say where these records stand when the log is a target itself.

* `writeFile_target` — a target can be opened.
* `stored_of_writeFile` — it holds all the payloads if none of them has been refused.
* `writeFile_of_room` — none is refused if there is room for all of them.
* `delivered_of_route_ok` — what has changed once the output has been routed.
-/

namespace CommandShell

open Store

/-- The bytes that were written to a stream. -/
def Output.get (o : Output) : Stream → Bytes
  | .stdout => o.stdout
  | .stderr => o.stderr

/-- The payloads of an output are all its bytes. -/
theorem Output.flatMap_payloads (o : Output) :
    o.payloads.flatMap Payload.bytes = o.stdout ++ o.stderr := by
  simp [payloads]

/-- The record of the opening of a target. -/
def Redirection.record (t : Redirection) : LogRecord :=
  ⟨.debug, .redirection, "opening " ++ t.path ++ " (" ++ t.mode.label ++ ")"⟩

/-- A console that has not failed has taken all it was given. -/
theorem Console.taken_of_put_ok {c : Console} {b : Bytes} (h : (c.put b).2 = .ok ()) :
    c.taken b = b := by
  unfold put at h
  cases htakes : c.takesAll b with
  | false =>
    rw [htakes] at h
    cases h
  | true =>
    unfold takesAll at htakes
    unfold taken
    cases hroom : c.room with
    | none => rfl
    | some n =>
      rw [hroom] at htakes
      exact List.take_of_length_le (of_decide_eq_true htakes)

namespace Redirections

/-- The targets, that of standard output first. -/
def targets (r : Redirections) : List Redirection :=
  r.stdout.toList ++ r.stderr.toList

/-- The targets as they are opened: two that have the same path are opened as one. -/
def openings (r : Redirections) : List Redirection :=
  match r.stdout, r.stderr with
  | some out, some err =>
    if out.path = err.path then [⟨out.path, World.sharedMode out.mode err.mode⟩]
    else [out, err]
  | _, _ => r.targets

theorem mem_targets {r : Redirections} {t : Redirection} :
    t ∈ r.targets ↔ r.stdout = some t ∨ r.stderr = some t := by
  simp [targets]

theorem openings_shared {out err : Redirection} (h : out.path = err.path) :
    openings ⟨some out, some err⟩ = [⟨out.path, World.sharedMode out.mode err.mode⟩] :=
  if_pos h

theorem openings_separate {out err : Redirection} (h : out.path ≠ err.path) :
    openings ⟨some out, some err⟩ = [out, err] :=
  if_neg h

end Redirections

namespace World

/-- Whether a target can be opened: its path leads to a file, or to a name that can be created. -/
def CanOpen (w : World) (t : Redirection) : Prop :=
  ∃ p, Target w.store w.cwd (Utf8.encode t.path) p

/-- The file that a target is in a store. -/
def IsFile (w : World) (s : Store) (t : Redirection) (id : NodeId) : Prop :=
  s.FileAt w.cwd (Utf8.encode t.path) id

/-- What comes before the output in a target, when some records may have been added to what the
file held: all that if the file is kept, and nothing if it is emptied or missing. -/
def base (w : World) (t : Redirection) (records : Bytes) : Bytes :=
  match t.mode with
  | .truncate => []
  | .append =>
    match w.store.read w.cwd (Utf8.encode t.path) with
    | .ok b => b ++ records
    | .error _ => []

/-- What an output leaves in a store: each target holds what it kept and then its part of the
output, and all other files are unchanged. The log has the records of the openings besides. -/
structure FilesDelivered (w : World) (o : Output) (r : Redirections) (s : Store) : Prop where
  /-- Every target is a file. -/
  exist : ∀ t ∈ r.targets, ∃ id, w.IsFile s t id
  /-- A path that both streams share keeps what it held only if both append to it. -/
  shared : ∀ out err mode id, r.stdout = some out → r.stderr = some err → out.path = err.path →
    (mode = .append ↔ out.mode = .append ∧ err.mode = .append) → w.IsFile s out id →
    s.bytesAt (.found id) = w.base ⟨out.path, mode⟩ (w.logged (r.openings.map (·.record)) id)
      ++ o.stdout ++ o.stderr
  stdout : ∀ out id, r.stdout = some out → w.IsFile s out id →
    (∀ err, r.stderr = some err → ¬ w.IsFile s err id) →
    s.bytesAt (.found id) = w.base out (w.logged [out.record] id) ++ o.stdout
      ++ w.logged (r.stderr.toList.map (·.record)) id
  stderr : ∀ err id, r.stderr = some err → w.IsFile s err id →
    (∀ out, r.stdout = some out → ¬ w.IsFile s out id) →
    s.bytesAt (.found id) = w.base err (w.logged (r.openings.map (·.record)) id) ++ o.stderr
  /-- What is no target is kept, and the paths that lead to it stay the same. -/
  others : ∀ id, (∀ t ∈ r.targets, ¬ w.IsFile s t id) →
    Keeps w.store s id (w.logged (r.openings.map (·.record)) id) ∧
      ∀ start path, s.lookup start path = .ok id ↔ w.store.lookup start path = .ok id

/-- What an output leaves in the world. -/
structure Delivered (w : World) (o : Output) (r : Redirections) (w' : World) : Prop where
  files : w.FilesDelivered o r w'.store
  /-- A console has been given what was written to its stream, unless this is redirected. -/
  consoles : ∀ s, (w'.console s).written =
    (w.console s).written ++ if r.get s = none then o.get s else []
  /-- Nothing else has changed. -/
  rest : w' = { w with store := w'.store, stdout := w'.stdout, stderr := w'.stderr }

/-! ## What a target keeps -/

section

variable {w w' : World} {t : Redirection} {p : Place} {s : Store} {a : Bytes}

/-- What opening leaves of a target is what the target held and what was added to it since. -/
theorem keptAt_eq_base (h : Target w.store w.cwd (Utf8.encode t.path) p)
    (hkeeps : ∀ j, p = .found j → Keeps w.store s j a) :
    s.keptAt p t.mode = w.base t a := by
  unfold base
  cases t.mode with
  | truncate => rfl
  | append =>
    cases h with
    | @file j c m hlocate hnode =>
      rw [read_of_locate_found hlocate hnode]
      simp only [keptAt, bytesAt, (hkeeps j rfl).file hnode, Content.bytes_append]
    | missing hlocate =>
      rw [read_of_locate_vacant hlocate]
      rfl

/-- What was added to a target before counts as added. -/
theorem base_of_keeps (h : Target w.store w.cwd (Utf8.encode t.path) p)
    (h' : Target w'.store w'.cwd (Utf8.encode t.path) p)
    (hkeeps : ∀ j, p = .found j → Keeps w.store w'.store j a) (more : Bytes) :
    w'.base t more = w.base t (a ++ more) := by
  unfold base
  cases t.mode with
  | truncate => rfl
  | append =>
    cases h with
    | @file j c m hlocate hnode =>
      have hnode' := (hkeeps j rfl).file hnode
      simp only [read_of_locate_found hlocate hnode, read_of_locate_found h'.locate hnode',
        Content.bytes_append, List.append_assoc]
    | missing hlocate =>
      simp only [read_of_locate_vacant hlocate, read_of_locate_vacant h'.locate]

end

/-! ## One target -/

section

variable {w : World} {k : Writer} {id : NodeId} {b : Bytes}

/-- An open node takes all of a payload. -/
def Takes (w : World) (k : Writer) (id : NodeId) (b : Bytes) : Prop :=
  b.length ≤ w.capacity k id b

instance (w : World) (k : Writer) (id : NodeId) (b : Bytes) : Decidable (w.Takes k id b) :=
  inferInstanceAs (Decidable (_ ≤ _))

/-- What files hold makes no difference to what they take. -/
theorem capacity_of_sameShape {w' : World} (h : SameShape w.store w'.store)
    (hroom : w'.room = w.room) (k : Writer) (id : NodeId) (b : Bytes) :
    w'.capacity k id b = w.capacity k id b := by
  rw [capacity, capacity, hroom]
  rcases h id with heq | ⟨c, c', m, hs, ht⟩
  · rw [heq]
  · rw [hs, ht]

theorem capacity_append (w : World) (k : Writer) (id j : NodeId) (a b : Bytes) :
    capacity { w with store := w.store.append j a } k id b = w.capacity k id b := by
  apply capacity_of_sameShape
  · exact sameShape_append w.store j a
  · rfl

theorem append_of_takes (h : w.Takes k id b) :
    w.append k id b = ({ w with store := w.store.append id b }, .ok ()) := by
  have hlength : b.length ≤ w.capacity k id b := h
  rw [append, List.take_of_length_le hlength, if_pos hlength]

theorem append_of_not_takes (h : ¬ w.Takes k id b) :
    w.append k id b = ({ w with store := w.store.append id (b.take (w.capacity k id b)) },
      .error (.errno .noSpace)) := by
  have hlength : ¬ b.length ≤ w.capacity k id b := h
  rw [append, if_neg hlength]

/-- Payloads that a node takes are added to what it holds, and writing goes on with the rest. -/
theorem writeAll_append (w : World) {before : List Payload}
    (h : ∀ p ∈ before, w.Takes p.writer id p.bytes) (rest : List Payload) :
    w.writeAll id (before ++ rest) =
      writeAll { w with store := w.store.append id (before.flatMap Payload.bytes) } id rest := by
  induction before generalizing w with
  | nil => rw [List.nil_append, List.flatMap_nil, append_nil]
  | cons p before ih =>
    have hrest : ∀ x ∈ before, w.Takes x.writer id x.bytes :=
      fun x hx => h x (List.mem_cons_of_mem p hx)
    rw [List.cons_append, writeAll, List.flatMap_cons, ← append_append]
    by_cases hempty : p.bytes = []
    · -- An empty payload is left out, and has nothing to add.
      rw [hempty, append_nil]
      exact ih w hrest
    · have hwrite : p.bytes.isEmpty = false := by simpa using hempty
      simp only [hwrite, append_of_takes (h p List.mem_cons_self), Bool.false_eq_true, if_false]
      refine ih _ fun x hx => ?_
      rw [Takes, capacity_append]
      exact hrest x hx

/-- A node that takes all payloads has been given them one after the other. -/
theorem writeAll_of_takes {payloads : List Payload}
    (h : ∀ p ∈ payloads, w.Takes p.writer id p.bytes) :
    w.writeAll id payloads =
      ({ w with store := w.store.append id (payloads.flatMap Payload.bytes) }, .ok ()) := by
  rw [← List.append_nil payloads, w.writeAll_append h, List.append_nil]
  rfl

/-- A payload of which a node does not take all is the last one that is written. The node has been
given the payloads before it and as much of it as there is room for. -/
theorem writeAll_of_refused {before : List Payload} {p : Payload}
    (hbefore : ∀ x ∈ before, w.Takes x.writer id x.bytes) (hp : ¬ w.Takes p.writer id p.bytes)
    (after : List Payload) :
    w.writeAll id (before ++ p :: after) =
      ({ w with
          store := w.store.append id (before.flatMap Payload.bytes ++
            p.bytes.take (w.capacity p.writer id p.bytes)) },
        .error (.errno .noSpace)) := by
  have hwrite : p.bytes.isEmpty = false := by
    rw [List.isEmpty_eq_false_iff]
    intro hempty
    rw [Takes, hempty] at hp
    exact hp (Nat.zero_le _)
  have hrefused : ¬ Takes { w with store := w.store.append id (before.flatMap Payload.bytes) }
      p.writer id p.bytes := by
    rwa [Takes, capacity_append]
  rw [w.writeAll_append hbefore, writeAll]
  simp only [hwrite, append_of_not_takes hrefused, capacity_append, append_append,
    Bool.false_eq_true, if_false]

/-- A node takes all payloads, or there is a first one of which it does not take all. -/
theorem takes_or_refused (w : World) (id : NodeId) (payloads : List Payload) :
    (∀ p ∈ payloads, w.Takes p.writer id p.bytes) ∨
      ∃ before p after, payloads = before ++ p :: after ∧
        (∀ x ∈ before, w.Takes x.writer id x.bytes) ∧ ¬ w.Takes p.writer id p.bytes := by
  cases hfind : payloads.find? fun p => !decide (w.Takes p.writer id p.bytes) with
  | none =>
    refine Or.inl fun p hp => ?_
    simpa using List.find?_eq_none.1 hfind p hp
  | some p =>
    obtain ⟨hp, before, after, hsplit, hbefore⟩ := List.find?_eq_some_iff_append.1 hfind
    exact Or.inr ⟨before, p, after, hsplit, fun x hx => by simpa using hbefore x hx,
      by simpa using hp⟩

theorem roomFor_singleton (w : World) (s : Stream) (h : w.RoomFor b) :
    ∀ x ∈ [Payload.mk s b], w.RoomFor x.bytes := by
  intro x hx
  rw [List.mem_singleton.1 hx]
  exact h

/-- A file takes any payload that there is room for. -/
theorem RoomFor.takes (h : w.RoomFor b) {c : Content} {m : Mode}
    (hnode : w.store.node? id = some (.file c m)) (k : Writer) : w.Takes k id b := by
  rw [Takes, capacity, hnode]
  exact h k id

end

section

variable {w w' : World} {t : Redirection} {p : Place}

/-- A target can be opened: it is the file in which the payloads are to be stored, and the writing
of them is what the result depends on. -/
theorem writeFile_target (h : Target w.store w.cwd (Utf8.encode t.path) p)
    (payloads : List Payload) :
    ∃ s id, Stored w.store s p id (w.base t (w.logged [t.record] id)) (w.logged [t.record]) ∧
      w.writeFile t payloads =
        ((writeAll { w with store := s } id payloads).1,
          (writeAll { w with store := s } id payloads).2.mapError (.writeFailed t.path)) := by
  -- The record is written first, and it may be written to the target itself.
  obtain ⟨s, hlog, hshape, hkeeps⟩ := w.log_store t.record
  have htarget : Target s w.cwd (Utf8.encode t.path) p := h.of_sameShape hshape
  obtain ⟨u, id, hopen, hopened⟩ := openFile_target htarget t.mode
  have hbase : s.keptAt p t.mode = w.base t (w.logged [t.record] id) := by
    refine keptAt_eq_base h fun j hj => ?_
    subst hj
    obtain rfl := hopened.found
    exact hkeeps j
  have hstored := hopened.after hshape hkeeps
  rw [hbase] at hstored
  simp only [List.append_nil] at hstored
  refine ⟨u, id, hstored, ?_⟩
  rw [Redirection.record] at hlog
  simp only [writeFile, debug, hlog, hopen]

/-- A target that has been written to without a failure holds all the payloads. -/
theorem stored_of_writeFile (h : Target w.store w.cwd (Utf8.encode t.path) p)
    {payloads : List Payload} (hok : w.writeFile t payloads = (w', .ok ())) :
    ∃ u id, w' = { w with store := u } ∧
      Stored w.store u p id
        (w.base t (w.logged [t.record] id) ++ payloads.flatMap Payload.bytes)
        (w.logged [t.record]) := by
  obtain ⟨s, id, hstored, hwrite⟩ := w.writeFile_target h payloads
  rcases takes_or_refused { w with store := s } id payloads with
    htakes | ⟨before, payload, after, rfl, hbefore, hpayload⟩
  · rw [hok, writeAll_of_takes htakes] at hwrite
    cases hwrite
    exact ⟨_, id, rfl, hstored.append (payloads.flatMap Payload.bytes)⟩
  · rw [hok, writeAll_of_refused hbefore hpayload] at hwrite
    cases hwrite

/-- A target takes all the payloads if there is room for them. -/
theorem writeFile_of_room (h : Target w.store w.cwd (Utf8.encode t.path) p)
    {payloads : List Payload} (hroom : ∀ x ∈ payloads, w.RoomFor x.bytes) :
    ∃ u id, w.writeFile t payloads = ({ w with store := u }, .ok ()) ∧
      Stored w.store u p id
        (w.base t (w.logged [t.record] id) ++ payloads.flatMap Payload.bytes)
        (w.logged [t.record]) := by
  obtain ⟨s, id, hstored, hwrite⟩ := w.writeFile_target h payloads
  obtain ⟨c, m, hnode, _⟩ := hstored.holds
  have htakes : ∀ x ∈ payloads, Takes { w with store := s } x.writer id x.bytes :=
    fun x hx => RoomFor.takes (w := { w with store := s }) (hroom x hx) hnode x.writer
  rw [writeAll_of_takes htakes] at hwrite
  exact ⟨_, id, hwrite, hstored.append (payloads.flatMap Payload.bytes)⟩

end

/-! ## Files -/

section

variable {w : World} {o : Output} {t out err : Redirection} {p q : Place} {id : NodeId} {b : Bytes}
  {u v : Store}

/-- What is written to one target leaves all that is not this target. -/
theorem others_of_stored (htarget : Target w.store w.cwd (Utf8.encode t.path) p)
    (h : Stored w.store u p id b (w.logged [t.record])) (j : NodeId) (hj : ¬ w.IsFile u t j) :
    Keeps w.store u j (w.logged [t.record] j) ∧
      ∀ start path, u.lookup start path = .ok j ↔ w.store.lookup start path = .ok j := by
  have hne : j ≠ id := by
    rintro rfl
    exact hj (h.fileAt_self htarget)
  exact ⟨h.keeps j hne, h.lookup j hne⟩

theorem filesDelivered_consoles : w.FilesDelivered o ⟨none, none⟩ w.store where
  exist := fun t ht => absurd ht List.not_mem_nil
  shared := fun out err mode id hout => nomatch hout
  stdout := fun out id hout => nomatch hout
  stderr := fun err id herr => nomatch herr
  others := fun id _ => by
    refine ⟨?_, fun start path => Iff.rfl⟩
    have hnone : w.logged (Redirections.openings ⟨none, none⟩ |>.map (·.record)) id = [] :=
      w.logged_nil id
    rw [hnone]
    exact .of_eq rfl

theorem filesDelivered_stdout (htarget : Target w.store w.cwd (Utf8.encode out.path) p)
    (h : Stored w.store u p id (w.base out (w.logged [out.record] id) ++ o.stdout)
      (w.logged [out.record])) :
    w.FilesDelivered o ⟨some out, none⟩ u where
  exist := by
    intro t ht
    obtain rfl := List.mem_singleton.1 ht
    exact ⟨id, h.fileAt_self htarget⟩
  shared := fun out err mode id _ herr => nomatch herr
  stdout := by
    intro t j ht hfile _
    cases ht
    obtain rfl := hfile.unique (h.fileAt_self htarget)
    have hnone : w.logged ((none : Option Redirection).toList.map (·.record)) j = [] :=
      w.logged_nil j
    rw [h.bytesAt, hnone, List.append_nil]
  stderr := fun err id herr => nomatch herr
  others := by
    intro j hj
    exact others_of_stored htarget h j (hj out (List.mem_singleton_self out))

theorem filesDelivered_stderr (htarget : Target w.store w.cwd (Utf8.encode err.path) p)
    (h : Stored w.store u p id (w.base err (w.logged [err.record] id) ++ o.stderr)
      (w.logged [err.record])) :
    w.FilesDelivered o ⟨none, some err⟩ u where
  exist := by
    intro t ht
    obtain rfl := List.mem_singleton.1 ht
    exact ⟨id, h.fileAt_self htarget⟩
  shared := fun out err mode id hout => nomatch hout
  stdout := fun out id hout => nomatch hout
  stderr := by
    intro t j ht hfile _
    cases ht
    obtain rfl := hfile.unique (h.fileAt_self htarget)
    exact h.bytesAt
  others := by
    intro j hj
    exact others_of_stored htarget h j (hj err (List.mem_singleton_self err))

/-- Two streams that share a path. -/
theorem filesDelivered_shared (hpath : out.path = err.path)
    (ht : t = ⟨out.path, sharedMode out.mode err.mode⟩)
    (htarget : Target w.store w.cwd (Utf8.encode t.path) p)
    (h : Stored w.store u p id (w.base t (w.logged [t.record] id) ++ (o.stdout ++ o.stderr))
      (w.logged [t.record])) :
    w.FilesDelivered o ⟨some out, some err⟩ u := by
  have hopenings : Redirections.openings ⟨some out, some err⟩ = [t] := by
    rw [Redirections.openings_shared hpath, ht]
  have hout : w.IsFile u out id := by
    have hfile := h.fileAt_self htarget
    rwa [ht] at hfile
  have herr : w.IsFile u err id := by
    rw [IsFile, ← hpath]
    exact hout
  constructor
  case exist =>
    intro x hx
    rcases Redirections.mem_targets.1 hx with hx | hx
    · cases hx
      exact ⟨id, hout⟩
    · cases hx
      exact ⟨id, herr⟩
  case shared =>
    intro x y mode j hx hy _ hmode hfile
    cases hx
    cases hy
    obtain rfl := hfile.unique hout
    have hkept : mode = sharedMode out.mode err.mode := by
      cases hm : out.mode <;> cases hm' : err.mode <;> cases mode <;> simp_all [sharedMode]
    rw [h.bytesAt, hopenings, hkept, ← ht, List.append_assoc]
    rfl
  case stdout =>
    intro x j hx hfile hother
    cases hx
    obtain rfl := hfile.unique hout
    exact absurd herr (hother err rfl)
  case stderr =>
    intro y j hy hfile hother
    cases hy
    obtain rfl := hfile.unique herr
    exact absurd hout (hother out rfl)
  case others =>
    intro j hj
    rw [hopenings]
    apply others_of_stored htarget h
    rw [ht]
    exact hj out (Redirections.mem_targets.2 (Or.inl rfl))

/-! ### One target after the other -/

variable {q' : Place} {id' : NodeId} {b' more : Bytes} {added' : NodeId → Bytes}

/-- The first target is the same file after the second one has been written to. -/
theorem isFile_first (hout : Target w.store w.cwd (Utf8.encode out.path) p)
    (hfirst : Stored w.store u p id b (w.logged [out.record]))
    (hsecond : Stored u v q' id' b' added') : w.IsFile v out id := by
  by_cases hid : id = id'
  · -- The second target is the file that the first one has become.
    subst hid
    rcases hsecond.origin with ⟨hplace, _⟩ | ⟨_, hnone⟩
    · rw [hplace] at hsecond
      exact hsecond.fileAt_self (hfirst.target_self hout)
    · obtain ⟨c, m, hnode, _⟩ := hfirst.holds
      rw [hnode] at hnone
      cases hnone
  · exact hsecond.fileAt_of_ne hid (hfirst.fileAt_self hout)

/-- Of a target of its own, the second one finds what it held at first and the records since. -/
theorem base_second (herr : Target w.store w.cwd (Utf8.encode err.path) q)
    (hfirst : Stored w.store u p id b (w.logged [out.record]))
    (herr' : Target u w.cwd (Utf8.encode err.path) q') (hsecond : Stored u v q' id' b' added')
    (hid : id' ≠ id) :
    World.base { w with store := u } err more =
      w.base err (w.logged [out.record] id' ++ more) := by
  -- At one place the two targets would be one file.
  have hplace : q ≠ p := by
    rintro rfl
    have hsame := herr'.unique (hfirst.target_self herr)
    rw [hsame] at hsecond
    exact hid hsecond.found.symm
  have hq := herr'.unique (hfirst.target_of_ne hplace herr)
  subst hq
  have hkeeps : ∀ i, q' = .found i → Keeps w.store u i (w.logged [out.record] id') := by
    intro i hi
    subst hi
    obtain rfl := hsecond.found
    exact hfirst.keeps i hid
  exact base_of_keeps herr herr' hkeeps more

/-- Two streams with paths of their own, which may lead to the same file all the same. -/
theorem filesDelivered_separate (hpath : out.path ≠ err.path)
    (hout : Target w.store w.cwd (Utf8.encode out.path) p)
    (herr : Target w.store w.cwd (Utf8.encode err.path) q)
    (hfirst : Stored w.store u p id (w.base out (w.logged [out.record] id) ++ o.stdout)
      (w.logged [out.record]))
    (herr' : Target u w.cwd (Utf8.encode err.path) q')
    (hsecond : Stored u v q' id'
      (World.base { w with store := u } err (w.logged [err.record] id') ++ o.stderr)
      (w.logged [err.record])) :
    w.FilesDelivered o ⟨some out, some err⟩ v := by
  have hrecords : ∀ j, w.logged ((Redirections.openings ⟨some out, some err⟩).map (·.record)) j =
      w.logged [out.record] j ++ w.logged [err.record] j := by
    intro j
    rw [Redirections.openings_separate hpath, ← logged_append]
    rfl
  have hfileOut : w.IsFile v out id := isFile_first hout hfirst hsecond
  have hfileErr : w.IsFile v err id' := hsecond.fileAt_self herr'
  constructor
  case exist =>
    intro x hx
    rcases Redirections.mem_targets.1 hx with hx | hx
    · cases hx
      exact ⟨id, hfileOut⟩
    · cases hx
      exact ⟨id', hfileErr⟩
  case shared =>
    intro x y mode j hx hy hxy
    cases hx
    cases hy
    exact absurd hxy hpath
  case stdout =>
    intro x j hx hfile hother
    cases hx
    obtain rfl := hfile.unique hfileOut
    have hid : j ≠ id' := by
      rintro rfl
      exact hother err rfl hfileErr
    obtain ⟨c, m, hnode, hbytes⟩ := hfirst.holds
    have hkept := (hsecond.keeps j hid).file hnode
    rw [bytesAt, hkept]
    simp only [Content.bytes_append, hbytes]
    rfl
  case stderr =>
    intro y j hy hfile hother
    cases hy
    obtain rfl := hfile.unique hfileErr
    have hid : j ≠ id := by
      rintro rfl
      exact hother out rfl hfileOut
    rw [hsecond.bytesAt, hrecords, base_second herr hfirst herr' hsecond hid]
  case others =>
    intro j hj
    have hid : j ≠ id := by
      rintro rfl
      exact hj out (Redirections.mem_targets.2 (Or.inl rfl)) hfileOut
    have hid' : j ≠ id' := by
      rintro rfl
      exact hj err (Redirections.mem_targets.2 (Or.inr rfl)) hfileErr
    rw [hrecords]
    refine ⟨(hfirst.keeps j hid).trans (hsecond.keeps j hid'), fun start path => ?_⟩
    rw [hsecond.lookup j hid', hfirst.lookup j hid]

end

/-! ## Consoles -/

theorem setConsole_console (w : World) (s : Stream) : w.setConsole s (w.console s) = w := by
  cases s <;> rfl

/-- A console that has not failed has been given all that was written to its stream. -/
theorem written_of_deliver_none {w w' : World} {s : Stream} {payload : Bytes}
    (h : w.deliver s payload none = (w', .ok ())) :
    ∃ c, w' = w.setConsole s c ∧ c.written = (w.console s).written ++ payload := by
  by_cases hempty : payload = []
  · subst hempty
    cases h
    refine ⟨w.console s, (w.setConsole_console s).symm, ?_⟩
    rw [List.append_nil]
  · have hwrite : payload.isEmpty = false := by simpa using hempty
    simp only [deliver, hwrite, Bool.false_eq_true, if_false, Prod.mk.injEq] at h
    obtain ⟨hworld, hresult⟩ := h
    have hput : ((w.console s).put payload).2 = .ok () := by
      cases hresult' : ((w.console s).put payload).2 with
      | ok _ => rfl
      | error e =>
        rw [hresult'] at hresult
        cases hresult
    refine ⟨_, hworld.symm, ?_⟩
    rw [Console.written_put, Console.taken_of_put_ok hput]

/-! ## Routing -/

/-- A stream that goes to a target is all written to it, and nothing but the store changes. -/
theorem stored_of_deliver_target (w : World) {w' : World} {s : Stream} {t : Redirection} {p : Place}
    {payload : Bytes} (htarget : Target w.store w.cwd (Utf8.encode t.path) p)
    (h : w.deliver s payload (some t) = (w', .ok ())) :
    ∃ u id, w' = { w with store := u } ∧
      Stored w.store u p id (w.base t (w.logged [t.record] id) ++ payload)
        (w.logged [t.record]) := by
  rw [deliver] at h
  obtain ⟨u, id, hworld, hstored⟩ := stored_of_writeFile htarget h
  rw [List.flatMap_singleton] at hstored
  exact ⟨u, id, hworld, hstored⟩

theorem route_shared {w : World} {o : Output} {out err : Redirection} (h : out.path = err.path) :
    w.route o ⟨some out, some err⟩ =
      w.writeFile ⟨out.path, sharedMode out.mode err.mode⟩ o.payloads :=
  if_pos h

/-- Nothing is done for a standard error that is empty and not redirected. -/
theorem route_stdout (w : World) (t : Redirection) (b : Bytes) :
    w.route ⟨b, []⟩ ⟨some t, none⟩ = w.writeFile t [⟨.stdout, b⟩] := by
  simp only [route, deliver]
  rcases w.writeFile t [⟨.stdout, b⟩] with ⟨w₁, _ | _⟩ <;> rfl

section

variable {w w₁ : World} {o : Output} {r : Redirections}

/-- A failure of standard output is the end of the routing. -/
theorem route_error {e : RouteError}
    (hpath : ∀ out err, r.stdout = some out → r.stderr = some err → out.path ≠ err.path)
    (h : w.deliver .stdout o.stdout r.stdout = (w₁, .error e)) :
    w.route o r = (w₁, .error e) := by
  obtain ⟨out, err⟩ := r
  cases out with
  | none => simp only [route, h]
  | some out =>
    cases err with
    | none => simp only [route, h]
    | some err => simp only [route, h, if_neg (hpath out err rfl rfl)]

/-- Standard error follows standard output. -/
theorem route_ok
    (hpath : ∀ out err, r.stdout = some out → r.stderr = some err → out.path ≠ err.path)
    (h : w.deliver .stdout o.stdout r.stdout = (w₁, .ok ())) :
    w.route o r = w₁.deliver .stderr o.stderr r.stderr := by
  obtain ⟨out, err⟩ := r
  cases out with
  | none => simp only [route, h]
  | some out =>
    cases err with
    | none => simp only [route, h]
    | some err => simp only [route, h, if_neg (hpath out err rfl rfl)]

/-- Streams that do not share a path have both been delivered. -/
theorem deliver_of_route_ok {w' : World}
    (hpath : ∀ out err, r.stdout = some out → r.stderr = some err → out.path ≠ err.path)
    (h : w.route o r = (w', .ok ())) :
    ∃ w₁, w.deliver .stdout o.stdout r.stdout = (w₁, .ok ()) ∧
      w₁.deliver .stderr o.stderr r.stderr = (w', .ok ()) := by
  rcases hfirst : w.deliver .stdout o.stdout r.stdout with ⟨w₁, e | _⟩
  · rw [route_error hpath hfirst] at h
    cases h
  · rw [route_ok hpath hfirst] at h
    exact ⟨w₁, rfl, h⟩

end

/-! ### The four kinds of redirections -/

section

variable {w w' : World} {o : Output} {out err : Redirection}

theorem delivered_consoles (h : w.route o ⟨none, none⟩ = (w', .ok ())) :
    w.Delivered o ⟨none, none⟩ w' := by
  obtain ⟨w₁, hout, herr⟩ := deliver_of_route_ok (by
    intro out err hout
    cases hout) h
  obtain ⟨c, rfl, hc⟩ := written_of_deliver_none hout
  obtain ⟨c', rfl, hc'⟩ := written_of_deliver_none herr
  refine ⟨filesDelivered_consoles, fun s => ?_, rfl⟩
  cases s with
  | stdout => exact hc
  | stderr => exact hc'

theorem delivered_stdout (hcan : w.CanOpen out) (h : w.route o ⟨some out, none⟩ = (w', .ok ())) :
    w.Delivered o ⟨some out, none⟩ w' := by
  obtain ⟨p, htarget⟩ := hcan
  obtain ⟨w₁, hout, herr⟩ := deliver_of_route_ok (by
    intro out err _ herr
    cases herr) h
  obtain ⟨u, id, rfl, hstored⟩ := stored_of_deliver_target w htarget hout
  obtain ⟨c, rfl, hc⟩ := written_of_deliver_none herr
  refine ⟨filesDelivered_stdout htarget hstored, fun s => ?_, rfl⟩
  cases s with
  | stdout => exact (List.append_nil _).symm
  | stderr => exact hc

theorem delivered_stderr (hcan : w.CanOpen err) (h : w.route o ⟨none, some err⟩ = (w', .ok ())) :
    w.Delivered o ⟨none, some err⟩ w' := by
  obtain ⟨p, htarget⟩ := hcan
  obtain ⟨w₁, hout, herr⟩ := deliver_of_route_ok (by
    intro out err hout
    cases hout) h
  obtain ⟨c, rfl, hc⟩ := written_of_deliver_none hout
  obtain ⟨u, id, rfl, hstored⟩ :=
    stored_of_deliver_target (w.setConsole .stdout c) htarget herr
  refine ⟨filesDelivered_stderr htarget hstored, fun s => ?_, rfl⟩
  cases s with
  | stdout => exact hc
  | stderr => exact (List.append_nil _).symm

theorem delivered_both (hcan : w.CanOpen out) (hcan' : w.CanOpen err)
    (h : w.route o ⟨some out, some err⟩ = (w', .ok ())) :
    w.Delivered o ⟨some out, some err⟩ w' := by
  obtain ⟨p, hout⟩ := hcan
  obtain ⟨q, herr⟩ := hcan'
  by_cases hpath : out.path = err.path
  · rw [route_shared hpath] at h
    obtain ⟨u, id, rfl, hstored⟩ :=
      stored_of_writeFile (t := ⟨out.path, sharedMode out.mode err.mode⟩) hout h
    rw [o.flatMap_payloads] at hstored
    refine ⟨filesDelivered_shared hpath rfl hout hstored, fun s => ?_, rfl⟩
    cases s with
    | stdout => exact (List.append_nil _).symm
    | stderr => exact (List.append_nil _).symm
  · obtain ⟨w₁, hfirst, hsecond⟩ := deliver_of_route_ok (by
      intro x y hx hy
      cases hx
      cases hy
      exact hpath) h
    obtain ⟨u, id, rfl, hstored⟩ := stored_of_deliver_target w hout hfirst
    -- The second target is looked up in the store that the first one has left.
    obtain ⟨q', herr'⟩ := hstored.exists_target herr
    obtain ⟨v, id', rfl, hstored'⟩ :=
      stored_of_deliver_target { w with store := u } herr' hsecond
    refine ⟨filesDelivered_separate hpath hout herr hstored herr' hstored', fun s => ?_, rfl⟩
    cases s with
    | stdout => exact (List.append_nil _).symm
    | stderr => exact (List.append_nil _).symm

end

/-- Once the output of a command has been routed, it has been delivered. -/
theorem delivered_of_route_ok {w w' : World} {o : Output} {r : Redirections}
    (htargets : ∀ t ∈ r.targets, w.CanOpen t) (h : w.route o r = (w', .ok ())) :
    w.Delivered o r w' := by
  obtain ⟨out, err⟩ := r
  cases out with
  | none =>
    cases err with
    | none => exact delivered_consoles h
    | some err => exact delivered_stderr (htargets err (Redirections.mem_targets.2 (.inr rfl))) h
  | some out =>
    have hout : w.CanOpen out := htargets out (Redirections.mem_targets.2 (.inl rfl))
    cases err with
    | none => exact delivered_stdout hout h
    | some err =>
      exact delivered_both hout (htargets err (Redirections.mem_targets.2 (.inr rfl))) h

/-! ### With a log -/

/-- A world with a file, and a log that takes records of all levels. -/
def withLog : World where
  store := ⟨#[.dir [(Utf8.encode "log", 1), (Utf8.encode "a", 2)] Store.root true,
    .file (.ofBytes []) Mode.plain, .file (.ofBytes (Utf8.encode "old")) Mode.plain]⟩
  logger := some ⟨.trace, .trace, 1⟩

/-- Both streams are appended, one to a file and one to a missing name. -/
def appendBoth : Redirections :=
  ⟨some ⟨"a", .append⟩, some ⟨"b", .append⟩⟩

theorem canOpen_withLog : ∀ t ∈ appendBoth.targets, withLog.CanOpen t := by
  intro t ht
  rcases Redirections.mem_targets.1 ht with ht | ht
  · cases ht
    exact ⟨.found 2, .file rfl rfl⟩
  · cases ht
    exact ⟨.vacant Store.root (Utf8.encode "b"), .missing rfl rfl⟩

theorem delivered_withLog :
    (∀ t ∈ appendBoth.targets, withLog.CanOpen t) ∧
      ∃ w', withLog.route ⟨[110, 0, 10], []⟩ appendBoth = (w', .ok ()) ∧
        withLog.Delivered ⟨[110, 0, 10], []⟩ appendBoth w' :=
  ⟨canOpen_withLog, _, rfl, delivered_of_route_ok canOpen_withLog rfl⟩

/-- The log changes although it is no target. -/
theorem log_changes_withLog :
    ¬ ∀ (w w' : World) (o : Output) (r : Redirections), (∀ t ∈ r.targets, w.CanOpen t) →
      w.route o r = (w', .ok ()) → ∀ id, (∀ t ∈ r.targets, ¬ w.IsFile w'.store t id) →
        w'.store.bytesAt (.found id) = w.store.bytesAt (.found id) := by
  intro h
  have hsame := h withLog _ ⟨[110, 0, 10], []⟩ appendBoth canOpen_withLog rfl 1 (by
    intro t ht hfile
    rcases Redirections.mem_targets.1 ht with ht | ht
    · cases ht
      cases hfile.1
    · cases ht
      cases hfile.1)
  cases hsame

end World

end CommandShell
