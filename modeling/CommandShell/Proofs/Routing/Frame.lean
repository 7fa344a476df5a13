import CommandShell.Proofs.World.Surroundings

/-!
# What routing leaves alone

However the routing of an output goes, it writes to no file but those that its targets lead to. All
else is untouched: what a file holds, the paths that lead to it, and that there is nothing where
nothing was. Only the log has the records of the openings besides, and these are the openings that
were tried.

* `Stage.run_untouched` — one stage, whether it is completed or fails.
* `runAll_untouched` — stages up to the first one that fails.
* `route_untouched` — any output and any redirections.
-/

namespace CommandShell

namespace Store

/-! ## Paths that lead to a node -/

/-- To open a path for writing leads to a node that is there already. -/
def LeadsTo (s : Store) (cwd : NodeId) (path : Bytes) (id : NodeId) : Prop :=
  ∃ slash, s.locate true cwd path = .ok (.found id, slash)

variable {s t u : Store} {cwd id : NodeId} {path : Bytes} {mode : WriteMode} {p : Place} {b : Bytes}
  {added : NodeId → Bytes}

theorem leadsTo_iff :
    s.LeadsTo cwd path id ↔
      (s.locate true cwd path).toOption.map Prod.fst = some (.found id) := by
  rw [LeadsTo]
  cases s.locate true cwd path with
  | error e => simp [Except.toOption]
  | ok q =>
    obtain ⟨p, slash⟩ := q
    simp [Except.toOption]

instance : Decidable (s.LeadsTo cwd path id) :=
  decidable_of_iff _ leadsTo_iff.symm

theorem LeadsTo.unique {id' : NodeId} (h : s.LeadsTo cwd path id) (h' : s.LeadsTo cwd path id') :
    id = id' := by
  obtain ⟨slash, hlocate⟩ := h
  obtain ⟨slash', hlocate'⟩ := h'
  rw [hlocate] at hlocate'
  cases hlocate'
  rfl

/-- What a path led to it still leads to. -/
def PathsStay (s t : Store) : Prop :=
  ∀ cwd path id, s.LeadsTo cwd path id → t.LeadsTo cwd path id

theorem PathsStay.refl (s : Store) : PathsStay s s :=
  fun _ _ _ h => h

theorem PathsStay.trans (h : PathsStay s t) (h' : PathsStay t u) : PathsStay s u :=
  fun cwd path id hs => h' cwd path id (h cwd path id hs)

theorem pathsStay_of_sameShape (h : SameShape s t) : PathsStay s t := by
  rintro cwd path id ⟨slash, hlocate⟩
  exact ⟨slash, by rwa [locate_of_sameShape h]⟩

theorem Stored.pathsStay (h : Stored s t p id b added) : PathsStay s t := by
  rintro cwd path j ⟨slash, hlocate⟩
  by_cases hplace : .found j = p
  · subst hplace
    obtain rfl := h.found
    exact ⟨slash, h.leads true cwd path slash hlocate⟩
  · exact ⟨slash, h.others true cwd path _ slash hplace hlocate⟩

/-! ## Opening and writing, whatever the path leads to -/

/-- What has been opened is the file that the path leads to from then on, or a device, which leaves
everything as it was. -/
theorem openFile_stored (h : s.openFile cwd path mode = .ok (t, id)) :
    (∃ p b slash, s.locate true cwd path = .ok (p, slash) ∧ Stored s t p id b fun _ => []) ∨
      ((∀ c m, t.node? id ≠ some (.file c m)) ∧ t = s ∧ s.LeadsTo cwd path id) := by
  rw [openFile] at h
  split at h
  · cases h
  · next j slash hlocate =>
    split at h
    · next c m hnode =>
      cases h
      exact Or.inl ⟨_, _, slash, hlocate, (stored_self hnode).setNode hnode _⟩
    · next d hnode =>
      cases h
      refine Or.inr ⟨?_, rfl, slash, hlocate⟩
      intro c m hfile
      rw [hnode] at hfile
      cases hfile
    · cases h
    · cases h
  · next dir name slash hlocate =>
    split at h
    · next es up hnode =>
      have hlacks : Lacks s dir name := ⟨child_of_locate_vacant hlocate, es, up, hnode⟩
      have hstored := stored_create hlacks (.ofBytes []) Mode.plain
      rw [Store.create] at hstored
      simp only [addNode, hnode] at h hstored
      cases h
      exact Or.inl ⟨_, _, slash, hlocate, hstored⟩
    · cases h

/-- A path that has been opened leads to the node that was opened. -/
theorem leadsTo_of_openFile (h : s.openFile cwd path mode = .ok (t, id)) :
    t.LeadsTo cwd path id := by
  rcases openFile_stored h with ⟨p, b, slash, hlocate, hstored⟩ | ⟨_, rfl, hleads⟩
  · exact ⟨slash, hstored.leads true cwd path slash hlocate⟩
  · exact hleads

end Store

open Store

namespace World

/-! ## Untouched nodes -/

/-- To open a target leads to a node that is there already. -/
def LeadsTo (w : World) (t : Redirection) (id : NodeId) : Prop :=
  w.store.LeadsTo w.cwd (Utf8.encode t.path) id

instance (w : World) (t : Redirection) (id : NodeId) : Decidable (w.LeadsTo t id) :=
  inferInstanceAs (Decidable (Store.LeadsTo ..))

/-- Some records have been written to the log, and nothing else has been done to a node: if it is a
file, it holds what it held, if there was nothing, there is nothing still, and the paths that lead
to it are the same. -/
structure Untouched (w : World) (rs : List LogRecord) (w' : World) (id : NodeId) : Prop where
  keeps : Keeps w.store w'.store id (w.logged rs id)
  lookup : ∀ start path, w'.store.lookup start path = .ok id ↔ w.store.lookup start path = .ok id

variable {w w₁ w' : World} {rs rs' : List LogRecord} {id : NodeId}

theorem SameSurroundings.logged (h : SameSurroundings w w') (rs : List LogRecord) (id : NodeId) :
    w'.logged rs id = w.logged rs id := by
  simp only [World.logged, fitting, h.logger, h.now, h.room]

/-- Records that are written later come behind those that were written before. -/
theorem keeps_logged_trans (hsame : SameSurroundings w w₁)
    (h : Keeps w.store w₁.store id (w.logged rs id))
    (h' : Keeps w₁.store w'.store id (w₁.logged rs' id)) :
    Keeps w.store w'.store id (w.logged (rs ++ rs') id) := by
  rw [logged_append, ← hsame.logged rs']
  exact h.trans h'

theorem LogsOnly.trans (hsame : SameSurroundings w w₁) (h : w.LogsOnly rs w₁)
    (h' : w₁.LogsOnly rs' w') : w.LogsOnly (rs ++ rs') w' :=
  ⟨h.shape.trans h'.shape, fun id => keeps_logged_trans hsame (h.keeps id) (h'.keeps id)⟩

theorem LogsOnly.untouched (h : w.LogsOnly rs w') (id : NodeId) : w.Untouched rs w' id :=
  ⟨h.keeps id, fun start path => by rw [lookup_of_sameShape h.shape]⟩

theorem Untouched.trans (hsame : SameSurroundings w w₁) (h : w.Untouched rs w₁ id)
    (h' : w₁.Untouched rs' w' id) : w.Untouched (rs ++ rs') w' id :=
  ⟨keeps_logged_trans hsame h.keeps h'.keeps,
    fun start path => (h'.lookup start path).trans (h.lookup start path)⟩

end World

/-! ## One stage -/

namespace Stage

variable {w w' : World} {stage : Stage}

/-- The target that a stage writes to, if it does not write to a console. -/
def target? : Stage → Option Redirection
  | file t _ => some t
  | console .. => none

/-- A stage leads to a node if its target does. -/
def LeadsTo (stage : Stage) (w : World) (id : NodeId) : Prop :=
  ∃ t, stage.target? = some t ∧ w.LeadsTo t id

/-- Opening a target and writing to it leave all nodes alone that the target does not lead to. -/
theorem untouched_opened {t : Redirection} {payloads : List Payload} {s : Store} {id : NodeId}
    (hopen : (w.log t.record).store.openFile w.cwd (Utf8.encode t.path) t.mode = .ok (s, id))
    (b : Bytes) :
    PathsStay w.store (s.append id b) ∧
      ∀ j, ¬ (file t payloads).LeadsTo { w with store := s.append id b } j →
        w.Untouched [t.record] { w with store := s.append id b } j := by
  have hlogs := w.logsOnly_log t.record
  rcases openFile_stored hopen with ⟨p, b', slash, hlocate, hstored⟩ | ⟨hdevice, rfl, _⟩
  · -- The target leads to the file that has been opened, so any other node is kept.
    have hdone := hstored.append b
    have hafter := hdone.after hlogs.shape hlogs.keeps
    simp only [List.append_nil] at hafter
    refine ⟨hafter.pathsStay, fun j hj => ?_⟩
    have hne : j ≠ id := by
      rintro rfl
      exact hj ⟨t, rfl, slash, hdone.leads true w.cwd _ slash hlocate⟩
    exact ⟨hafter.keeps j hne, hafter.lookup j hne⟩
  · rw [append_of_not_file hdevice]
    have hdone : w.LogsOnly [t.record] { w with store := (w.log t.record).store } :=
      ⟨hlogs.shape, hlogs.keeps⟩
    exact ⟨pathsStay_of_sameShape hdone.shape, fun j _ => hdone.untouched j⟩

theorem logsOnly_setConsole (w : World) (s : Stream) (c : Console) :
    w.LogsOnly [] (w.setConsole s c) := by
  have hstore : (w.setConsole s c).store = w.store := by cases s <;> rfl
  have hnone : w.LogsOnly [] w := .refl w
  exact ⟨hstore ▸ hnone.shape, hstore ▸ hnone.keeps⟩

theorem untouched_of_logsOnly (h : w.LogsOnly stage.records w') :
    PathsStay w.store w'.store ∧
      ∀ id, ¬ stage.LeadsTo w' id → w.Untouched stage.records w' id :=
  ⟨pathsStay_of_sameShape h.shape, fun id _ => h.untouched id⟩

theorem untouched_completes (h : stage.Completes w w') :
    PathsStay w.store w'.store ∧
      ∀ id, ¬ stage.LeadsTo w' id → w.Untouched stage.records w' id := by
  cases h with
  | file hopen htakes => exact untouched_opened hopen _
  | empty s => exact untouched_of_logsOnly (.refl w)
  | console => exact untouched_of_logsOnly (logsOnly_setConsole w _ _)

theorem untouched_leaves {e : RouteError} (h : stage.Leaves w e w') :
    PathsStay w.store w'.store ∧
      ∀ id, ¬ stage.LeadsTo w' id → w.Untouched stage.records w' id := by
  cases h with
  | notOpened t payloads e => exact untouched_of_logsOnly (w.logsOnly_log t.record)
  | notWritten hopen hpart hshort after e => exact untouched_opened hopen _
  | console => exact untouched_of_logsOnly (logsOnly_setConsole w _ _)

/-- However a stage goes, it leaves all nodes alone that its target does not lead to. -/
theorem run_untouched (w : World) (stage : Stage) :
    PathsStay w.store (stage.run w).1.store ∧
      ∀ id, ¬ stage.LeadsTo (stage.run w).1 id →
        w.Untouched stage.records (stage.run w).1 id := by
  rcases stage.completes_or_fails w with ⟨w', hdone⟩ | ⟨e, hfails⟩
  · rw [hdone.run]
    exact untouched_completes hdone
  · exact untouched_leaves hfails.run_leaves.2

end Stage

/-! ## Stage by stage -/

namespace World

/-- The stages that are tried: all up to the first one that fails, and that one. -/
def tried (w : World) : List Stage → List Stage
  | [] => []
  | stage :: rest =>
    match stage.run w with
    | (_, .error _) => [stage]
    | (w, .ok ()) => stage :: w.tried rest

/-- Stages leave all nodes alone that none of their targets leads to in the end. -/
theorem runAll_untouched (w : World) (stages : List Stage) :
    PathsStay w.store (w.runAll stages).1.store ∧
      ∀ id, (∀ stage ∈ stages, ¬ stage.LeadsTo (w.runAll stages).1 id) →
        w.Untouched ((w.tried stages).flatMap Stage.records) (w.runAll stages).1 id := by
  induction stages generalizing w with
  | nil => exact ⟨.refl _, fun id _ => (LogsOnly.refl w).untouched id⟩
  | cons stage rest ih =>
    obtain ⟨hpaths, hfirst⟩ := stage.run_untouched w
    have hsame := w.outputOnly_runAll [stage]
    rw [runAll_singleton] at hsame
    rcases hrun : stage.run w with ⟨w₁, e | _⟩
    · rw [hrun] at hpaths hfirst
      simp only [runAll, tried, hrun, List.flatMap_singleton]
      exact ⟨hpaths, fun id hid => hfirst id (hid stage List.mem_cons_self)⟩
    · rw [hrun] at hpaths hfirst hsame
      obtain ⟨hpaths', hrest⟩ := ih w₁
      simp only [runAll, tried, hrun, List.flatMap_cons]
      refine ⟨hpaths.trans hpaths', fun id hid => ?_⟩
      refine (hfirst id ?_).trans hsame.toSameSurroundings
        (hrest id fun s hs => hid s (List.mem_cons_of_mem stage hs))
      -- What the target leads to after its stage it leads to in the end.
      rintro ⟨t, ht, hleads⟩
      refine hid stage List.mem_cons_self ⟨t, ht, ?_⟩
      rw [LeadsTo, (outputOnly_runAll w₁ rest).cwd]
      exact hpaths' _ _ _ hleads

/-! ## Routing -/

/-- The targets that are opened, or that cannot be: that of standard output, then that of standard
error unless the delivery of standard output has failed. A path that both streams share is opened
once, and to append only if both operators append. -/
def triedTargets (w : World) (o : Output) (r : Redirections) : List Redirection :=
  let separate := r.stdout.toList ++
    match w.deliver .stdout o.stdout r.stdout with
    | (_, .ok ()) => r.stderr.toList
    | (_, .error _) => []
  match r.stdout, r.stderr with
  | some out, some err =>
    if out.path = err.path then [⟨out.path, sharedMode out.mode err.mode⟩] else separate
  | _, _ => separate

/-- The records of the openings that are tried. -/
def openingRecords (w : World) (o : Output) (r : Redirections) : List LogRecord :=
  (w.triedTargets o r).map (·.record)

theorem records_tried_cons (w : World) (stage : Stage) (rest : List Stage) :
    (w.tried (stage :: rest)).flatMap Stage.records =
      stage.records ++
        match stage.run w with
        | (w, .ok ()) => (w.tried rest).flatMap Stage.records
        | (_, .error _) => [] := by
  rw [tried]
  rcases stage.run w with ⟨w₁, e | _⟩ <;> simp

theorem records_tried_singleton (w : World) (stage : Stage) :
    (w.tried [stage]).flatMap Stage.records = stage.records := by
  rw [records_tried_cons]
  split <;> simp [tried]

end World

theorem Stage.records_ofStream (s : Stream) (payload : Bytes) (t : Option Redirection) :
    (Stage.ofStream s payload t).records = t.toList.map (·.record) := by
  cases t <;> rfl

theorem Stage.target?_ofStream (s : Stream) (payload : Bytes) (t : Option Redirection) :
    (Stage.ofStream s payload t).target? = t := by
  cases t <;> rfl

/-- A stage is that of a path that both streams share, or that of one of the streams. -/
theorem Redirections.mem_stages {o : Output} (r : Redirections) {stage : Stage}
    (h : stage ∈ r.stages o) :
    (∃ out err, r.stdout = some out ∧ r.stderr = some err ∧
        stage = .file ⟨out.path, World.sharedMode out.mode err.mode⟩ o.payloads) ∨
      stage = .ofStream .stdout o.stdout r.stdout ∨
        stage = .ofStream .stderr o.stderr r.stderr := by
  rw [stages] at h
  split at h
  · next out err hout herr =>
    split at h
    · exact Or.inl ⟨out, err, hout, herr, List.mem_singleton.1 h⟩
    · exact Or.inr (by simpa using h)
  · exact Or.inr (by simpa using h)

/-- The stages of an output lead to nothing but what the targets lead to. -/
theorem Stage.LeadsTo.exists_target {w : World} {o : Output} {r : Redirections} {stage : Stage}
    {id : NodeId} (hmem : stage ∈ r.stages o) (h : stage.LeadsTo w id) :
    ∃ t ∈ r.targets, w.LeadsTo t id := by
  obtain ⟨t, ht, hleads⟩ := h
  rcases r.mem_stages hmem with ⟨out, err, hout, _, rfl⟩ | rfl | rfl
  · cases ht
    exact ⟨out, Redirections.mem_targets.2 (.inl hout), hleads⟩
  · rw [target?_ofStream] at ht
    exact ⟨t, Redirections.mem_targets.2 (.inl ht), hleads⟩
  · rw [target?_ofStream] at ht
    exact ⟨t, Redirections.mem_targets.2 (.inr ht), hleads⟩

namespace World

theorem records_tried_stages (w : World) (o : Output) (r : Redirections) :
    (w.tried (r.stages o)).flatMap Stage.records = w.openingRecords o r := by
  have hpair : (w.tried [.ofStream .stdout o.stdout r.stdout,
      .ofStream .stderr o.stderr r.stderr]).flatMap Stage.records =
        (r.stdout.toList ++ match w.deliver .stdout o.stdout r.stdout with
          | (_, .ok ()) => r.stderr.toList
          | (_, .error _) => []).map (·.record) := by
    rw [records_tried_cons, deliver_eq_run, Stage.records_ofStream, List.map_append]
    rcases (Stage.ofStream .stdout o.stdout r.stdout).run w with ⟨w₁, e | _⟩
    · rfl
    · simp only [records_tried_singleton, Stage.records_ofStream]
  rw [openingRecords]
  obtain ⟨out, err⟩ := r
  cases out with
  | none => exact hpair
  | some out =>
    cases err with
    | none => exact hpair
    | some err =>
      by_cases hpath : out.path = err.path
      · simp only [Redirections.stages, triedTargets, if_pos hpath, records_tried_singleton]
        rfl
      · simp only [Redirections.stages, triedTargets, if_neg hpath]
        exact hpair

/-- However the routing of an output goes, it leaves all nodes alone that no target leads to. -/
theorem route_untouched (w : World) (o : Output) (r : Redirections) {id : NodeId}
    (h : ∀ t ∈ r.targets, ¬ (w.route o r).1.LeadsTo t id) :
    w.Untouched (w.openingRecords o r) (w.route o r).1 id := by
  rw [route_eq_runAll] at h ⊢
  rw [← records_tried_stages]
  refine (w.runAll_untouched (r.stages o)).2 id fun stage hstage hleads => ?_
  obtain ⟨t, ht, hleads⟩ := hleads.exists_target hstage
  exact h t ht hleads

end World

end CommandShell
