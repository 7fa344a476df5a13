import CommandShell.Proofs.Routing.Frame

/-!
# The first failure ends a delivery

The delivery of an output ends with the first stage that fails. What that stage has done is left as
it is, be it half of a write, and what comes after it is left alone: no later target is created or
emptied, and no later console is given anything.

* `stderr_of_leaves` — the stage of standard output leaves the console for errors alone.
* `logsOnly_of_leaves` — files are changed by no failure but that of a write.
* `console_runAll` — a console is left alone if there is nothing to write to it.
* `route_stages` — what comes of the delivery of any output.
-/

namespace CommandShell

namespace World

variable {w w' : World} {stage : Stage} {stages rest : List Stage} {e : RouteError} {o : Output}
  {r : Redirections} {s : Stream} {payload : Bytes}

/-! ## The stage of standard output -/

/-- The first stage is not about the console for errors. -/
theorem ne_console_stderr_of_stages (h : r.stages o = stage :: rest) (payload : Bytes) :
    stage ≠ .console .stderr payload := by
  rintro rfl
  rcases r.stages_cases o with ⟨t, hstages⟩ | hstages
  · rw [hstages] at h
    cases h
  · rw [hstages] at h
    cases (Stage.ofStream_eq_console (List.cons.inj h).1).1

theorem stderr_of_leaves (hfirst : r.stages o = stage :: rest) (h : stage.Leaves w e w') :
    w'.stderr = w.stderr := by
  cases h with
  | notOpened t =>
    obtain ⟨s, hlog, _⟩ := w.log_store t.record
    rw [hlog]
  | notWritten => rfl
  | @console s payload =>
    cases s with
    | stdout => rfl
    | stderr => exact absurd rfl (ne_console_stderr_of_stages hfirst payload)

/-! ## Files -/

/-- Files are changed by no failure but that of a write. -/
theorem logsOnly_of_leaves (h : stage.Leaves w e w')
    (hwrite : ∀ path cause, e ≠ .writeFailed path cause) : w.LogsOnly stage.records w' := by
  cases h with
  | notOpened t => exact w.logsOnly_log t.record
  | notWritten => exact absurd rfl (hwrite _ _)
  | console => exact Stage.logsOnly_setConsole w _ _

/-! ## Consoles -/

/-- Stages leave a console alone if they have nothing to write to it. -/
theorem console_runAll (w : World)
    (h : ∀ payload, Stage.console s payload ∈ stages → payload = []) :
    (w.runAll stages).1.console s = w.console s := by
  induction stages generalizing w with
  | nil => rfl
  | cons stage rest ih =>
    have hstage : (stage.run w).1.console s = w.console s := by
      refine Stage.console_run fun payload hpayload => h payload ?_
      rw [hpayload]
      exact List.mem_cons_self
    rw [← hstage, runAll]
    split
    · next w₁ e hrun => rw [hrun]
    · next w₁ hrun =>
      rw [hrun]
      exact ih w₁ fun payload hpayload => h payload (List.mem_cons_of_mem _ hpayload)

/-- Only what is not redirected is written to a console. -/
theorem console_mem_stages (h : Stage.console s payload ∈ r.stages o) :
    r.get s = none ∧ payload = o.get s := by
  rcases r.stages_cases o with ⟨t, hstages⟩ | hstages
  · rw [hstages] at h
    cases List.mem_singleton.1 h
  · rw [hstages, List.mem_cons, List.mem_singleton] at h
    rcases h with hout | herr
    · obtain ⟨rfl, hnone, hpayload⟩ := Stage.ofStream_eq_console hout.symm
      exact ⟨hnone, hpayload.symm⟩
    · obtain ⟨rfl, hnone, hpayload⟩ := Stage.ofStream_eq_console herr.symm
      exact ⟨hnone, hpayload.symm⟩

/-! ## Routing -/

/-- Output is delivered stage by stage: all stages are completed, or the first one that fails ends
the routing with its error. A stage that fails leaves a part of what it had to write behind, and
changes no file unless it is a write that fails; an empty payload is no reason to fail. What comes
after it is left alone: if the stage of standard output fails, the console for errors has been given
nothing, and every file that is not the target of this stage, be it there or not, is as it was. -/
theorem route_stages (w : World) (o : Output) (r : Redirections) :
    (∀ w', w.route o r = (w', .ok ()) ↔ w.Completed (r.stages o) w') ∧
    (∀ e, (w.route o r).2 = .error e ↔ ∃ w₁ stage, w.StopsAt (r.stages o) w₁ stage e) ∧
    (∀ w₁ stage e, w.StopsAt (r.stages o) w₁ stage e →
      stage.Leaves w₁ e (w.route o r).1 ∧
      ((∀ path cause, e ≠ .writeFailed path cause) →
        w₁.LogsOnly stage.records (w.route o r).1) ∧
      ((∀ b ∈ stage.payloads, b = []) → ∃ path cause, e = .openFailed path cause)) ∧
    (∀ stage rest e, r.stages o = stage :: rest → stage.Fails w e →
      (w.route o r).1.stderr = w.stderr ∧
      ∀ id, ¬ stage.LeadsTo (w.route o r).1 id →
        w.Untouched stage.records (w.route o r).1 id) ∧
    ∀ s, (r.get s = none → o.get s = []) → (w.route o r).1.console s = w.console s := by
  rw [route_eq_runAll]
  refine ⟨fun w' => runAll_eq_ok_iff, fun e => runAll_eq_error_iff, ?_, ?_, ?_⟩
  · intro w₁ stage e hstop
    exact ⟨hstop.leaves, logsOnly_of_leaves hstop.leaves, hstop.fails.openFailed⟩
  · intro stage rest e hfirst hfails
    have hstop : w.StopsAt (r.stages o) w stage e := ⟨⟨[], rest, hfirst, .nil w⟩, hfails⟩
    exact ⟨stderr_of_leaves hfirst hstop.leaves, (Stage.untouched_leaves hstop.leaves).2⟩
  · intro s hs
    refine w.console_runAll fun payload hpayload => ?_
    obtain ⟨hnone, rfl⟩ := console_mem_stages hpayload
    exact hs hnone

/-- A world in which a file has room for a single byte of a payload, and so has the console for
output. -/
def littleRoom : World :=
  { withLog with stdout := { room := some 1 }, room := fun _ _ _ => 1 }

/-- Two targets, and one for standard error alone. -/
def emptyBoth : Redirections :=
  ⟨some ⟨"a", .truncate⟩, some ⟨"b", .truncate⟩⟩

/-- A file is emptied and given one byte of two, and the target of standard error is not created. If
the console takes one byte of two, that of standard error is not emptied. -/
theorem route_stages_littleRoom :
    ((Stage.file ⟨"a", .truncate⟩ [⟨.stdout, [110, 10]⟩]).Fails littleRoom
        (.writeFailed "a" (.errno .noSpace)) ∧
      (littleRoom.route ⟨[110, 10], [111]⟩ emptyBoth).2 =
        .error (.writeFailed "a" (.errno .noSpace)) ∧
      (littleRoom.route ⟨[110, 10], [111]⟩ emptyBoth).1.store.bytesAt (.found 2) = [110] ∧
      littleRoom.Untouched [Redirection.record ⟨"a", .truncate⟩]
        (littleRoom.route ⟨[110, 10], [111]⟩ emptyBoth).1 3) ∧
    (Stage.console .stdout [110, 10]).Fails littleRoom (.consoleFailed .consoleFull) ∧
      (littleRoom.route ⟨[110, 10], [111]⟩ ⟨none, some ⟨"a", .truncate⟩⟩).2 =
        .error (.consoleFailed .consoleFull) ∧
      littleRoom.LogsOnly []
        (littleRoom.route ⟨[110, 10], [111]⟩ ⟨none, some ⟨"a", .truncate⟩⟩).1 := by
  constructor
  · have hfails : (Stage.file ⟨"a", .truncate⟩ ([] ++ ⟨.stdout, [110, 10]⟩ :: [])).Fails littleRoom
        (.writeFailed "a" (.errno .noSpace)) :=
      .notWritten rfl (by simp) (by decide) []
    obtain ⟨_, herror, _, hfirst, _⟩ := littleRoom.route_stages ⟨[110, 10], [111]⟩ emptyBoth
    refine ⟨hfails, (herror _).2 ⟨_, _, ⟨[], _, rfl, .nil _⟩, hfails⟩, by decide +kernel, ?_⟩
    apply (hfirst _ _ _ rfl hfails).2
    rintro ⟨t, ht, hleads⟩
    cases ht
    exact absurd hleads (by decide +kernel)
  · have hfails : (Stage.console .stdout [110, 10]).Fails littleRoom
        (.consoleFailed .consoleFull) := .notTaken (by decide) (by decide)
    have hstop : littleRoom.StopsAt _ littleRoom (Stage.console .stdout [110, 10])
        (.consoleFailed .consoleFull) :=
      ⟨⟨[], [.file ⟨"a", .truncate⟩ [⟨.stderr, [111]⟩]], rfl, .nil _⟩, hfails⟩
    obtain ⟨_, herror, hleaves, _⟩ :=
      littleRoom.route_stages ⟨[110, 10], [111]⟩ ⟨none, some ⟨"a", .truncate⟩⟩
    exact ⟨hfails, (herror _).2 ⟨_, _, hstop⟩, (hleaves _ _ _ hstop).2.1 (by simp)⟩

end World

end CommandShell
