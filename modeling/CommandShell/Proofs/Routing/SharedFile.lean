import CommandShell.Proofs.Routing.Delivery

/-!
# Two streams in one file

Both streams of a command may be redirected to one file: by one path, or by two paths that lead to
the same place, such as `f` and `./f`, or a link and the name it stands for. With one path the file
is opened once. With two paths it is opened for each stream, and the opening for standard error is
the one that counts: if it appends, standard error comes behind all the rest, and if it empties the
file, nothing is left of standard output.

* `stored_of_writeFile_written` — a file that has been written to is written to again.
* `route_sameFile` — what the file holds in the end, however its paths are spelled.
* `stdout_lost_twoSpellings` — that both streams are kept is not true of all spellings.
-/

namespace CommandShell

open Store

namespace World

variable {w : World} {o : Output} {out err t : Redirection} {p : Place} {id : NodeId} {b : Bytes}
  {u : Store} {added : NodeId → Bytes}

/-- What comes before the output in a file that has just been written to. -/
theorem base_written (h : Stored w.store u p id b added)
    (ht : Target w.store w.cwd (Utf8.encode t.path) p) (more : Bytes) :
    World.base { w with store := u } t more =
      match t.mode with
      | .truncate => []
      | .append => b ++ more := by
  unfold base
  cases t.mode with
  | truncate => rfl
  | append => simp only [h.read_self ht]

/-- A file that has been written to is written to again, by whatever path leads to it. -/
theorem stored_of_writeFile_written (h : Stored w.store u p id b added)
    (ht : Target w.store w.cwd (Utf8.encode t.path) p) {x : Payload} {w' : World}
    (hok : World.writeFile { w with store := u } t [x] = (w', .ok ())) :
    ∃ v, w' = { w with store := v } ∧
      Stored u v (.found id) id
        ((match t.mode with
          | .truncate => []
          | .append => b ++ w.logged [t.record] id) ++ x.bytes)
        (w.logged [t.record]) := by
  obtain ⟨v, id', hworld, hstored⟩ :=
    stored_of_writeFile (w := { w with store := u }) (h.target_self ht) hok
  obtain rfl := hstored.found
  rw [base_written h ht, List.flatMap_singleton] at hstored
  exact ⟨v, hworld, hstored⟩

/-- Streams with paths of their own are written to their targets one after the other. -/
theorem route_separate (hpath : out.path ≠ err.path) {w₁ : World}
    (h : w.writeFile out [⟨.stdout, o.stdout⟩] = (w₁, .ok ())) :
    w.route o ⟨some out, some err⟩ = w₁.writeFile err [⟨.stderr, o.stderr⟩] := by
  refine route_ok (fun x y hx hy => ?_) h
  cases hx
  cases hy
  exact hpath

/-- Nothing but a lack of room keeps two streams from being written to one file. -/
theorem route_sameFile_ok (hout : Target w.store w.cwd (Utf8.encode out.path) p)
    (herr : Target w.store w.cwd (Utf8.encode err.path) p) (hroom : w.RoomFor o.stdout)
    (hroom' : w.RoomFor o.stderr) : ∃ w', w.route o ⟨some out, some err⟩ = (w', .ok ()) := by
  by_cases hpath : out.path = err.path
  · have hboth : ∀ x ∈ o.payloads, w.RoomFor x.bytes := by simp [Output.payloads, hroom, hroom']
    obtain ⟨v, id, hwritten, _⟩ :=
      writeFile_of_room (t := ⟨out.path, sharedMode out.mode err.mode⟩) hout hboth
    exact ⟨_, (route_shared hpath).trans hwritten⟩
  · obtain ⟨u, id, hfirst, hstored⟩ := writeFile_of_room hout (w.roomFor_singleton .stdout hroom)
    obtain ⟨v, id', hsecond, _⟩ :=
      writeFile_of_room (w := { w with store := u }) (hstored.target_self herr)
        (roomFor_singleton _ .stderr hroom')
    exact ⟨_, (route_separate hpath hfirst).trans hsecond⟩

/-- What a file holds that both streams are redirected to. The routing succeeds if there is room for
what is written, and whenever it does, this is so. If the paths are spelled alike, or if standard
error appends, then both streams follow what is kept of the file, and it is kept only if both
operators append. If the paths are spelled differently and standard error empties the file, it holds
standard error alone. All other files are unchanged. The log has the records of the openings
besides, each where it was written. -/
theorem route_sameFile (hout : Target w.store w.cwd (Utf8.encode out.path) p)
    (herr : Target w.store w.cwd (Utf8.encode err.path) p) (o : Output) :
    (w.RoomFor o.stdout → w.RoomFor o.stderr →
      ∃ w', w.route o ⟨some out, some err⟩ = (w', .ok ())) ∧
    ∀ w', w.route o ⟨some out, some err⟩ = (w', .ok ()) → ∃ v id, w' = { w with store := v } ∧
      w.IsFile v out id ∧ w.IsFile v err id ∧
      (out.path = err.path →
        v.bytesAt (.found id) =
          w.base ⟨out.path, sharedMode out.mode err.mode⟩
            (w.logged ((Redirections.openings ⟨some out, some err⟩).map (·.record)) id)
            ++ o.stdout ++ o.stderr) ∧
      (out.path ≠ err.path → err.mode = .append →
        v.bytesAt (.found id) =
          w.base ⟨out.path, sharedMode out.mode err.mode⟩ (w.logged [out.record] id)
            ++ o.stdout ++ w.logged [err.record] id ++ o.stderr) ∧
      (out.path ≠ err.path → err.mode = .truncate → v.bytesAt (.found id) = o.stderr) ∧
      ∀ j, j ≠ id →
        Keeps w.store v j
          (w.logged ((Redirections.openings ⟨some out, some err⟩).map (·.record)) j) := by
  refine ⟨route_sameFile_ok hout herr, fun w' hok => ?_⟩
  by_cases hpath : out.path = err.path
  · rw [route_shared hpath] at hok
    obtain ⟨v, id, hworld, hstored⟩ :=
      stored_of_writeFile (t := ⟨out.path, sharedMode out.mode err.mode⟩) hout hok
    have hfile : w.IsFile v out id := hstored.fileAt_self hout
    have hbytes := hstored.bytesAt
    rw [o.flatMap_payloads, ← List.append_assoc] at hbytes
    rw [Redirections.openings_shared hpath]
    refine ⟨v, id, hworld, hfile, ?_, fun _ => hbytes,
      fun hne => absurd hpath hne, fun hne => absurd hpath hne, hstored.keeps⟩
    rw [IsFile, ← hpath]
    exact hfile
  · obtain ⟨w₁, hfirst, hsecond⟩ := deliver_of_route_ok (by
      intro x y hx hy
      cases hx
      cases hy
      exact hpath) hok
    obtain ⟨u, id, rfl, hstored⟩ := stored_of_deliver_target w hout hfirst
    obtain ⟨v, hworld, hstored'⟩ := stored_of_writeFile_written hstored herr hsecond
    have herr' : v.FileAt w.cwd (Utf8.encode err.path) id :=
      hstored'.fileAt_self (hstored.target_self herr)
    have hout' : v.FileAt w.cwd (Utf8.encode out.path) id :=
      hstored'.fileAt_self (hstored.target_self hout)
    refine ⟨v, id, hworld, hout', herr', fun heq => absurd heq hpath, fun _ hmode => ?_,
      fun _ hmode => ?_, fun j hj => ?_⟩
    · -- Standard error decides nothing about what is kept if it appends.
      have hshared : sharedMode out.mode err.mode = out.mode := by
        rw [hmode]
        cases out.mode <;> rfl
      rw [hstored'.bytesAt, hshared]
      simp only [hmode]
    · rw [hstored'.bytesAt]
      simp only [hmode]
      rfl
    · rw [Redirections.openings_separate hpath, List.map_cons, ← List.singleton_append,
        logged_append]
      exact (hstored.keeps j hj).trans (hstored'.keeps j hj)

/-- A world with a file, a link to it and nothing else. -/
def withLink : World where
  store := ⟨#[.dir [(Utf8.encode "f", 1), (Utf8.encode "to f", 2)] Store.root true,
    .file (.ofBytes (Utf8.encode "old")) Mode.plain, .link (Utf8.encode "/./f")]⟩

theorem target_withLink {path : String} (h : path ∈ ["f", "./f", "to f"]) :
    Target withLink.store withLink.cwd (Utf8.encode path) (.found 1) := by
  simp only [List.mem_cons, List.not_mem_nil, or_false] at h
  rcases h with rfl | rfl | rfl
  · exact .file rfl rfl
  · exact .file rfl rfl
  · exact .file rfl rfl

/-- The file is appended to under its name and by the link. -/
theorem route_sameFile_withLink :
    Target withLink.store withLink.cwd (Utf8.encode "f") (.found 1) ∧
      Target withLink.store withLink.cwd (Utf8.encode "to f") (.found 1) ∧
      withLink.RoomFor [111] ∧ withLink.RoomFor [101] ∧
      ∃ w' v id, withLink.route ⟨[111], [101]⟩ ⟨some ⟨"f", .append⟩, some ⟨"to f", .append⟩⟩ =
          (w', .ok ()) ∧
        w' = { withLink with store := v } ∧
        v.bytesAt (.found id) = Utf8.encode "old" ++ [111] ++ [101] := by
  have hfile : Target withLink.store withLink.cwd (Utf8.encode "f") (.found 1) :=
    target_withLink (by decide)
  have hlink : Target withLink.store withLink.cwd (Utf8.encode "to f") (.found 1) :=
    target_withLink (by decide)
  have hroom : ∀ b, withLink.RoomFor b := fun b _ _ => Nat.le_refl b.length
  refine ⟨hfile, hlink, hroom _, hroom _, ?_⟩
  obtain ⟨hok, hwritten⟩ :=
    @route_sameFile withLink ⟨"f", .append⟩ ⟨"to f", .append⟩ _ hfile hlink ⟨[111], [101]⟩
  obtain ⟨w', hroute⟩ := hok (hroom _) (hroom _)
  obtain ⟨v, id, hworld, _, _, _, happends, _⟩ := hwritten w' hroute
  have hbase : withLink.base ⟨"f", .append⟩ [] = Utf8.encode "old" := by decide +kernel
  have hbytes := happends (by decide) rfl
  rw [logged_of_no_logger rfl, logged_of_no_logger rfl, List.append_nil] at hbytes
  refine ⟨w', v, id, hroute, hworld, hbytes.trans ?_⟩
  rw [← hbase]
  rfl

/-- Standard output is lost if the paths are spelled differently and standard error empties the
file. -/
theorem stdout_lost_twoSpellings :
    ¬ ∀ (w w' : World) (o : Output) (out err : Redirection) (p : Place) (id : NodeId),
      w.logger = none → Target w.store w.cwd (Utf8.encode out.path) p →
      Target w.store w.cwd (Utf8.encode err.path) p →
      w.route o ⟨some out, some err⟩ = (w', .ok ()) → w.IsFile w'.store out id →
      w'.store.bytesAt (.found id) =
        w.base ⟨out.path, sharedMode out.mode err.mode⟩ [] ++ o.stdout ++ o.stderr := by
  intro h
  have hbytes := h withLink _ ⟨[111], [101]⟩ ⟨"f", .truncate⟩ ⟨"./f", .truncate⟩ (.found 1) 1 rfl
    (target_withLink (by decide)) (target_withLink (by decide)) rfl ⟨rfl, _, _, rfl⟩
  cases hbytes

end World

end CommandShell
