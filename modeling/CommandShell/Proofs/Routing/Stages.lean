import CommandShell.Proofs.Routing.Delivery

/-!
# Output is delivered in stages

The output of a command is delivered in two stages, that of standard output first, or in a single
one if both streams have the same path. A stage that fails ends the delivery. If its target could
not be opened, it has changed nothing, and otherwise it has done its work up to some byte.

* `Stage.completes_or_fails` — a stage is completed, or it fails in one of the ways of
  `Stage.Fails`.
* `Stage.Fails.run_leaves` — what a stage that fails leaves behind.
* `route_eq_runAll` — routing runs the stages up to the first one that fails.
-/

namespace CommandShell

namespace Store

variable {s t : Store} {cwd id : NodeId} {path : Bytes} {mode : WriteMode}

theorem SameShape.node?_eq (hshape : SameShape s t) (hnot : ∀ c m, s.node? id ≠ some (.file c m)) :
    t.node? id = s.node? id := by
  rcases hshape id with heq | ⟨c, c', m, hs, ht⟩
  · exact heq
  · exact absurd hs (hnot c m)

/-- Whether a path can be opened does not depend on what the files hold. -/
theorem openFile_error_of_sameShape (hshape : SameShape s t) {e : OsError}
    (h : s.openFile cwd path mode = .error e) : t.openFile cwd path mode = .error e := by
  rw [openFile] at h ⊢
  rw [locate_of_sameShape hshape]
  split at h
  · exact h
  · next j slash hlocate =>
    -- A file could have been opened.
    have hnot : ∀ c m, s.node? j ≠ some (.file c m) := by
      intro c m hnode
      rw [hnode] at h
      cases h
    simp only [hshape.node?_eq hnot]
    split at h
    · cases h
    · cases h
    · exact h
    · exact h
  · next dir name slash hlocate =>
    split at h
    · cases h
    · next hnot =>
      split
      · next es up hnode =>
        rcases hshape dir with heq | ⟨c, c', m, _, ht⟩
        · exact absurd (heq ▸ hnode) (hnot es up)
        · rw [hnode] at ht
          cases ht
      · exact h

end Store

open Store

/-! ## Stages -/

/-- What is delivered at one go. -/
inductive Stage where
  /-- A target is opened once, and payloads are written to it in order. -/
  | file (t : Redirection) (payloads : List Payload)
  /-- A payload is written to the console of a stream. -/
  | console (s : Stream) (payload : Bytes)

namespace Stage

/-- The delivery of what was written to a stream. -/
def ofStream (s : Stream) (payload : Bytes) : Option Redirection → Stage
  | some t => file t [⟨s, payload⟩]
  | none => console s payload

theorem ofStream_eq_console {s s' : Stream} {payload payload' : Bytes} {t : Option Redirection}
    (h : ofStream s payload t = console s' payload') : s = s' ∧ t = none ∧ payload = payload' := by
  cases t with
  | none =>
    cases h
    exact ⟨rfl, rfl, rfl⟩
  | some t => cases h

/-- What is to be written in a stage. -/
def payloads : Stage → List Bytes
  | file _ payloads => payloads.map Payload.bytes
  | console _ payload => [payload]

/-- The records of the openings of a stage. -/
def records : Stage → List LogRecord
  | file t _ => [t.record]
  | console .. => []

/-- Runs a stage. -/
def run (w : World) : Stage → World × Except RouteError Unit
  | file t payloads => w.writeFile t payloads
  | console s payload => w.deliver s payload none

/-- All there is to a stage has been done. -/
inductive Completes (w : World) : Stage → World → Prop where
  | file {t : Redirection} {payloads : List Payload} {s : Store} {id : NodeId}
      (hopen : (w.log t.record).store.openFile w.cwd (Utf8.encode t.path) t.mode = .ok (s, id))
      (htakes : ∀ p ∈ payloads, World.Takes { w with store := s } p.writer id p.bytes) :
      Completes w (.file t payloads)
        { w with store := s.append id (payloads.flatMap Payload.bytes) }
  /-- An empty payload is not written, and the console is not flushed for it. -/
  | empty (s : Stream) : Completes w (.console s []) w
  | console {s : Stream} {payload : Bytes} (hne : payload ≠ [])
      (htakes : (w.console s).takesAll payload = true) (hflush : (w.console s).flushFails = false) :
      Completes w (.console s payload) (w.setConsole s ((w.console s).put payload).1)

/-- A stage fails. -/
inductive Fails (w : World) : Stage → RouteError → Prop where
  | notOpened {t : Redirection} {payloads : List Payload} {e : OsError}
      (hopen : w.store.openFile w.cwd (Utf8.encode t.path) t.mode = .error e) :
      Fails w (.file t payloads) (.openFailed t.path e)
  /-- The payloads before have been taken, and one is not taken in full. -/
  | notWritten {t : Redirection} {before : List Payload} {p : Payload} {s : Store} {id : NodeId}
      (hopen : (w.log t.record).store.openFile w.cwd (Utf8.encode t.path) t.mode = .ok (s, id))
      (hbefore : ∀ x ∈ before, World.Takes { w with store := s } x.writer id x.bytes)
      (hp : ¬ World.Takes { w with store := s } p.writer id p.bytes) (after : List Payload) :
      Fails w (.file t (before ++ p :: after)) (.writeFailed t.path (.errno .noSpace))
  | notTaken {s : Stream} {payload : Bytes} (hne : payload ≠ [])
      (htakes : (w.console s).takesAll payload = false) :
      Fails w (.console s payload) (.consoleFailed .consoleFull)
  | notFlushed {s : Stream} {payload : Bytes} (hne : payload ≠ [])
      (htakes : (w.console s).takesAll payload = true) (hflush : (w.console s).flushFails = true) :
      Fails w (.console s payload) (.consoleFailed .flushFailed)

/-- What a stage that fails leaves behind. -/
inductive Leaves (w : World) : Stage → RouteError → World → Prop where
  /-- Nothing has been done but to write the record of the opening. -/
  | notOpened (t : Redirection) (payloads : List Payload) (e : OsError) :
      Leaves w (.file t payloads) (.openFailed t.path e) (w.log t.record)
  /-- The target has been opened, and has been given the payloads before the one that it does not
  take in full, and a part of this one from its beginning on. -/
  | notWritten {t : Redirection} {before : List Payload} {p : Payload} {part : Bytes} {s : Store}
      {id : NodeId}
      (hopen : (w.log t.record).store.openFile w.cwd (Utf8.encode t.path) t.mode = .ok (s, id))
      (hpart : part <+: p.bytes) (hshort : part.length < p.bytes.length) (after : List Payload)
      (e : OsError) :
      Leaves w (.file t (before ++ p :: after)) (.writeFailed t.path e)
        { w with store := s.append id (before.flatMap Payload.bytes ++ part) }
  /-- The console has been given a part of the payload from its beginning on. -/
  | console {s : Stream} {payload part : Bytes} {c : Console} (hpart : part <+: payload)
      (hwritten : c.written = (w.console s).written ++ part) (e : OsError) :
      Leaves w (.console s payload) (.consoleFailed e) (w.setConsole s c)

end Stage

/-! ## Writing to a target -/

namespace World

variable {w : World} {t : Redirection} {payloads : List Payload}

theorem writeFile_of_open_error {e : OsError}
    (h : (w.log t.record).store.openFile w.cwd (Utf8.encode t.path) t.mode = .error e) :
    w.writeFile t payloads = (w.log t.record, .error (.openFailed t.path e)) := by
  obtain ⟨r, hlog, _⟩ := w.log_store t.record
  rw [hlog] at h ⊢
  rw [Redirection.record] at hlog
  simp only [writeFile, debug, hlog, h]

/-- Once a target has been opened, the payloads are written to what has been opened. -/
theorem writeFile_of_open {s : Store} {id : NodeId}
    (h : (w.log t.record).store.openFile w.cwd (Utf8.encode t.path) t.mode = .ok (s, id)) :
    w.writeFile t payloads =
      ((writeAll { w with store := s } id payloads).1,
        (writeAll { w with store := s } id payloads).2.mapError (.writeFailed t.path)) := by
  obtain ⟨r, hlog, _⟩ := w.log_store t.record
  rw [hlog] at h
  rw [Redirection.record] at hlog
  simp only [writeFile, debug, hlog, h]

end World

/-! ## Writing to a console -/

theorem Console.put_result (c : Console) (b : Bytes) :
    (c.put b).2 =
      if c.takesAll b then (if c.flushFails then .error .flushFailed else .ok ())
      else .error .consoleFull := by
  unfold put
  cases c.takesAll b with
  | false => rfl
  | true => cases c.flushFails <;> rfl

/-- A console takes a payload from its beginning on. -/
theorem Console.taken_isPrefix (c : Console) (b : Bytes) : c.taken b <+: b := by
  unfold taken
  split
  · exact List.take_prefix _ b
  · exact List.prefix_refl b

theorem World.deliver_none {payload : Bytes} (hne : payload ≠ []) (w : World) (s : Stream) :
    w.deliver s payload none =
      (w.setConsole s ((w.console s).put payload).1,
        ((w.console s).put payload).2.mapError .consoleFailed) := by
  have hwrite : payload.isEmpty = false := by simpa using hne
  simp only [deliver, hwrite, Bool.false_eq_true, if_false]

/-! ## One stage -/

namespace Stage

variable {w w' : World} {stage : Stage} {e : RouteError}

theorem Completes.run (h : stage.Completes w w') : stage.run w = (w', .ok ()) := by
  cases h with
  | file hopen htakes =>
    rw [Stage.run, World.writeFile_of_open hopen, World.writeAll_of_takes htakes]
    rfl
  | empty s => rfl
  | console hne htakes hflush =>
    rw [Stage.run, World.deliver_none hne, Console.put_result, htakes, hflush]
    rfl

/-- A stage that fails gives its error, and what it leaves behind. -/
theorem Fails.run_leaves (h : stage.Fails w e) :
    (stage.run w).2 = .error e ∧ stage.Leaves w e (stage.run w).1 := by
  cases h with
  | @notOpened t payloads e hopen =>
    -- The record does not make a path one that can be opened.
    obtain ⟨s, hlog, hshape, _⟩ := w.log_store t.record
    have hlogged :
        (w.log t.record).store.openFile w.cwd (Utf8.encode t.path) t.mode = .error e := by
      rw [hlog]
      exact openFile_error_of_sameShape hshape hopen
    rw [Stage.run, World.writeFile_of_open_error hlogged]
    exact ⟨rfl, .notOpened t payloads e⟩
  | @notWritten t before p s id hopen hbefore hp after =>
    have hshort : World.capacity { w with store := s } p.writer id p.bytes < p.bytes.length :=
      Nat.lt_of_not_le hp
    rw [Stage.run, World.writeFile_of_open hopen, World.writeAll_of_refused hbefore hp]
    refine ⟨rfl, .notWritten hopen (List.take_prefix _ p.bytes) ?_ after _⟩
    rw [List.length_take]
    omega
  | notTaken hne htakes =>
    rw [Stage.run, World.deliver_none hne, Console.put_result, htakes]
    exact ⟨rfl, .console (Console.taken_isPrefix _ _) (Console.written_put _ _) _⟩
  | notFlushed hne htakes hflush =>
    rw [Stage.run, World.deliver_none hne, Console.put_result, htakes, hflush]
    exact ⟨rfl, .console (Console.taken_isPrefix _ _) (Console.written_put _ _) _⟩

theorem Fails.run (h : stage.Fails w e) : (stage.run w).2 = .error e :=
  h.run_leaves.1

/-- A stage is completed, or it fails. -/
theorem completes_or_fails (w : World) (stage : Stage) :
    (∃ w', stage.Completes w w') ∨ ∃ e, stage.Fails w e := by
  cases stage with
  | file t payloads =>
    cases hopen : (w.log t.record).store.openFile w.cwd (Utf8.encode t.path) t.mode with
    | error e =>
      obtain ⟨s, hlog, hshape, _⟩ := w.log_store t.record
      rw [hlog] at hopen
      exact Or.inr ⟨_, .notOpened (openFile_error_of_sameShape hshape.symm hopen)⟩
    | ok opened =>
      obtain ⟨s, id⟩ := opened
      rcases World.takes_or_refused { w with store := s } id payloads with
        htakes | ⟨before, p, after, rfl, hbefore, hp⟩
      · exact Or.inl ⟨_, .file hopen htakes⟩
      · exact Or.inr ⟨_, .notWritten hopen hbefore hp after⟩
  | console s payload =>
    by_cases hne : payload = []
    · subst hne
      exact Or.inl ⟨w, .empty s⟩
    · cases htakes : (w.console s).takesAll payload with
      | false => exact Or.inr ⟨_, .notTaken hne htakes⟩
      | true =>
        cases hflush : (w.console s).flushFails with
        | false => exact Or.inl ⟨_, .console hne htakes hflush⟩
        | true => exact Or.inr ⟨_, .notFlushed hne htakes hflush⟩

/-- A stage that has nothing to write fails only if its target cannot be opened. -/
theorem Fails.openFailed (h : stage.Fails w e) (hempty : ∀ b ∈ stage.payloads, b = []) :
    ∃ path cause, e = .openFailed path cause := by
  cases h with
  | notOpened hopen => exact ⟨_, _, rfl⟩
  | @notWritten t before p s id hopen hbefore hp after =>
    have hnone : p.bytes = [] := hempty p.bytes (by simp [payloads])
    rw [World.Takes, hnone] at hp
    exact absurd (Nat.zero_le _) hp
  | notTaken hne htakes => exact absurd (hempty _ (by simp [payloads])) hne
  | notFlushed hne htakes hflush => exact absurd (hempty _ (by simp [payloads])) hne

/-- A stage that writes to a target changes nothing but the files. -/
theorem run_file (w : World) (t : Redirection) (payloads : List Payload) :
    ∃ s, ((file t payloads).run w).1 = { w with store := s } := by
  rcases (file t payloads).completes_or_fails w with ⟨w', hdone⟩ | ⟨e, hfails⟩
  · rw [hdone.run]
    cases hdone with
    | file hopen htakes => exact ⟨_, rfl⟩
  · have hleaves := hfails.run_leaves.2
    generalize ((file t payloads).run w).1 = w' at hleaves
    cases hleaves with
    | notOpened =>
      obtain ⟨s, hlog, _⟩ := w.log_store t.record
      exact ⟨s, hlog⟩
    | notWritten hopen hpart hshort after e => exact ⟨_, rfl⟩

/-- A stage has nothing to do with a console unless it has something to write to it. -/
theorem console_run {s : Stream} (h : ∀ payload, stage = .console s payload → payload = []) :
    (stage.run w).1.console s = w.console s := by
  cases stage with
  | file t payloads =>
    obtain ⟨u, hrun⟩ := run_file w t payloads
    rw [hrun]
    cases s <;> rfl
  | console s' payload =>
    by_cases hne : payload = []
    · subst hne
      rfl
    · rw [run, World.deliver_none hne]
      cases s <;> cases s' <;> first | rfl | exact absurd (h payload rfl) hne

end Stage

/-! ## One stage after the other -/

/-- The stages in which an output is delivered, in their order. -/
def Redirections.stages (r : Redirections) (o : Output) : List Stage :=
  let separate := [Stage.ofStream .stdout o.stdout r.stdout, .ofStream .stderr o.stderr r.stderr]
  match r.stdout, r.stderr with
  | some out, some err =>
    if out.path = err.path then
      [.file ⟨out.path, World.sharedMode out.mode err.mode⟩ o.payloads]
    else separate
  | _, _ => separate

/-- There is one stage for a path that both streams share, or one for each stream. -/
theorem Redirections.stages_cases (r : Redirections) (o : Output) :
    (∃ t, r.stages o = [.file t o.payloads]) ∨
      r.stages o =
        [Stage.ofStream .stdout o.stdout r.stdout, .ofStream .stderr o.stderr r.stderr] := by
  obtain ⟨out, err⟩ := r
  cases out with
  | none => exact Or.inr rfl
  | some out =>
    cases err with
    | none => exact Or.inr rfl
    | some err =>
      by_cases hpath : out.path = err.path
      · exact Or.inl ⟨_, if_pos hpath⟩
      · exact Or.inr (if_neg hpath)

namespace World

variable {w w' : World} {stages : List Stage} {e : RouteError}

/-- Runs stages up to the first one that fails. -/
def runAll (w : World) : List Stage → World × Except RouteError Unit
  | [] => (w, .ok ())
  | stage :: rest =>
    match stage.run w with
    | (w, .error e) => (w, .error e)
    | (w, .ok ()) => w.runAll rest

/-- All stages have been completed, one after the other. -/
inductive Completed : World → List Stage → World → Prop where
  | nil (w : World) : Completed w [] w
  | cons {w w₁ w' : World} {stage : Stage} {rest : List Stage} (h : stage.Completes w w₁)
      (hrest : Completed w₁ rest w') : Completed w (stage :: rest) w'

/-- The first stage that fails, with the world that those before it have left and its error. -/
structure StopsAt (w : World) (stages : List Stage) (w₁ : World) (stage : Stage)
    (e : RouteError) : Prop where
  reached : ∃ done rest, stages = done ++ stage :: rest ∧ Completed w done w₁
  fails : stage.Fails w₁ e

theorem runAll_cons {w₁ : World} {stage : Stage} (h : stage.Completes w w₁)
    (rest : List Stage) : w.runAll (stage :: rest) = w₁.runAll rest := by
  rw [runAll, h.run]

theorem runAll_of_fails {stage : Stage} (h : stage.Fails w e) (rest : List Stage) :
    w.runAll (stage :: rest) = stage.run w := by
  have hrun := h.run
  rw [runAll]
  split
  · next w' e' hrun' => exact hrun'.symm
  · next w' hrun' =>
    rw [hrun'] at hrun
    cases hrun

theorem Completed.runAll_append {done : List Stage} (h : w.Completed done w')
    (rest : List Stage) : w.runAll (done ++ rest) = w'.runAll rest := by
  induction h with
  | nil => rfl
  | cons h _ ih => rw [List.cons_append, runAll_cons h, ih]

theorem Completed.runAll (h : w.Completed stages w') : w.runAll stages = (w', .ok ()) := by
  rw [← List.append_nil stages, h.runAll_append]
  rfl

/-- The run ends with the stage that fails. -/
theorem StopsAt.runAll {w₁ : World} {stage : Stage} (h : w.StopsAt stages w₁ stage e) :
    w.runAll stages = stage.run w₁ := by
  obtain ⟨done, rest, rfl, hdone⟩ := h.reached
  rw [hdone.runAll_append, runAll_of_fails h.fails]

theorem completed_or_stopsAt (w : World) (stages : List Stage) :
    (∃ w', w.Completed stages w') ∨ ∃ w₁ stage e, w.StopsAt stages w₁ stage e := by
  induction stages generalizing w with
  | nil => exact Or.inl ⟨w, .nil w⟩
  | cons stage rest ih =>
    rcases stage.completes_or_fails w with ⟨w₁, hdone⟩ | ⟨e, hfails⟩
    · rcases ih w₁ with ⟨w', hrest⟩ | ⟨w₂, last, e, ⟨⟨done, left, hsplit, hbefore⟩, hfails⟩⟩
      · exact Or.inl ⟨w', .cons hdone hrest⟩
      · refine Or.inr ⟨w₂, last, e, ⟨stage :: done, left, ?_, .cons hdone hbefore⟩, hfails⟩
        rw [hsplit, List.cons_append]
    · exact Or.inr ⟨w, stage, e, ⟨[], rest, rfl, .nil w⟩, hfails⟩

theorem runAll_eq_ok_iff : w.runAll stages = (w', .ok ()) ↔ w.Completed stages w' := by
  refine ⟨fun h => ?_, Completed.runAll⟩
  rcases w.completed_or_stopsAt stages with ⟨w'', hdone⟩ | ⟨w₁, stage, e, hstop⟩
  · have hrun := hdone.runAll
    rw [h] at hrun
    cases hrun
    exact hdone
  · have hrun := hstop.fails.run
    rw [← hstop.runAll, h] at hrun
    cases hrun

theorem runAll_eq_error_iff :
    (w.runAll stages).2 = .error e ↔ ∃ w₁ stage, w.StopsAt stages w₁ stage e := by
  constructor
  · intro h
    rcases w.completed_or_stopsAt stages with ⟨w', hdone⟩ | ⟨w₁, stage, e', hstop⟩
    · rw [hdone.runAll] at h
      cases h
    · have hrun := hstop.fails.run
      rw [← hstop.runAll, h] at hrun
      cases hrun
      exact ⟨w₁, stage, hstop⟩
  · rintro ⟨w₁, stage, hstop⟩
    rw [hstop.runAll, hstop.fails.run]

theorem StopsAt.leaves {w₁ : World} {stage : Stage} (h : w.StopsAt stages w₁ stage e) :
    stage.Leaves w₁ e (w.runAll stages).1 := by
  rw [h.runAll]
  exact h.fails.run_leaves.2

/-! ## Routing -/

theorem runAll_singleton (w : World) (stage : Stage) : w.runAll [stage] = stage.run w := by
  rw [runAll]
  rcases stage.run w with ⟨w', _ | _⟩ <;> rfl

theorem runAll_pair (w : World) (first second : Stage) :
    w.runAll [first, second] =
      match first.run w with
      | (w, .error e) => (w, .error e)
      | (w, .ok ()) => second.run w := by
  rw [runAll]
  split
  · rfl
  · exact runAll_singleton _ second

theorem deliver_eq_run (w : World) (s : Stream) (payload : Bytes) (t : Option Redirection) :
    w.deliver s payload t = (Stage.ofStream s payload t).run w := by
  cases t <;> rfl

/-- Routing runs the stages up to the first one that fails. -/
theorem route_eq_runAll (w : World) (o : Output) (r : Redirections) :
    w.route o r = w.runAll (r.stages o) := by
  obtain ⟨out, err⟩ := r
  simp only [route, deliver_eq_run, Redirections.stages]
  cases out with
  | none => exact (w.runAll_pair _ _).symm
  | some out =>
    cases err with
    | none => exact (w.runAll_pair _ _).symm
    | some err =>
      by_cases hpath : out.path = err.path
      · simp only [if_pos hpath]
        exact (w.runAll_singleton
          (.file ⟨out.path, sharedMode out.mode err.mode⟩ o.payloads)).symm
      · simp only [if_neg hpath]
        exact (w.runAll_pair _ _).symm

end World

end CommandShell
