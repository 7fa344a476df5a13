import CommandShell.Proofs.Dispatch.Unlogged
import CommandShell.Proofs.Routing.SharedFile

/-!
# One opening or two

A path that both streams share is opened once. It could as well be opened for each stream, standard
output first, as long as standard error is appended: the second opening finds the file as the first
stream has left it. It only adds its own record to the log, between the two streams. If standard
error empties the file, the second opening takes standard output away, and a single one keeps it.

* `openFile_again` — what has been opened can be opened again, and appending leaves it as it is.
* `writeFile_then` — two payloads for one opening, or each with an opening of its own.
* `route_openedOnce` — a shared path, opened once and opened twice.
* `log_opened_twice` — that the files are the same is not true of the log.
-/

namespace CommandShell

open Store

/-! ## Opening again -/

namespace Store

variable {s t u : Store} {cwd id : NodeId} {path : Bytes} {mode : WriteMode}

/-- What has been opened is a file or a device. -/
theorem node?_of_openFile (h : s.openFile cwd path mode = .ok (t, id)) :
    (∃ c m, t.node? id = some (.file c m)) ∨ ∃ d, t.node? id = some (.device d) := by
  rcases openFile_cases h with ⟨c, m, hnode, rfl⟩ | ⟨d, hnode, rfl⟩ | ⟨dir, name, hlacks, rfl, rfl⟩
  · exact Or.inl ⟨_, m, node?_setNode_self hnode _⟩
  · exact Or.inr ⟨d, hnode⟩
  · exact Or.inl ⟨_, _, node?_create_new hlacks⟩

/-- What has been opened can be opened again, whatever has been written to files since, and to open
it for appending changes nothing. -/
theorem openFile_again (h : s.openFile cwd path mode = .ok (t, id)) (hshape : SameShape t u) :
    u.openFile cwd path .append = .ok (u, id) := by
  obtain ⟨slash, hlocate⟩ := pathsStay_of_sameShape hshape _ _ _ (leadsTo_of_openFile h)
  have hnode : (∃ c m, u.node? id = some (.file c m)) ∨ ∃ d, u.node? id = some (.device d) := by
    rcases hshape id with heq | ⟨_, c, m, _, hu⟩
    · rw [heq]
      exact node?_of_openFile h
    · exact Or.inl ⟨c, m, hu⟩
  rw [openFile, hlocate]
  rcases hnode with ⟨c, m, hu⟩ | ⟨d, hu⟩
  · simp only [hu, Content.opened, setNode_self hu]
  · simp only [hu]

end Store

namespace World

variable {w w₁ : World} {o : Output} {t : Redirection} {path : String} {id : NodeId} {a b : Payload}

/-! ## Payloads with and without an opening of their own -/

/-- Writes a payload to a target that is open. -/
def writeOpen (w : World) (path : String) (id : NodeId) (p : Payload) :
    World × Except RouteError Unit :=
  ((w.append p.writer id p.bytes).1,
    (w.append p.writer id p.bytes).2.mapError (.writeFailed path))

/-- A payload is written before the rest is; for an empty one that makes no difference. -/
theorem writeAll_cons (w : World) (id : NodeId) (p : Payload) (rest : List Payload) :
    w.writeAll id (p :: rest) =
      match w.append p.writer id p.bytes with
      | (w, .error e) => (w, .error e)
      | (w, .ok ()) => w.writeAll id rest := by
  rw [writeAll]
  cases p.bytes with
  | nil =>
    have htakes : w.Takes p.writer id [] := Nat.zero_le _
    rw [append_of_takes htakes, append_nil]
    rfl
  | cons x b => rfl

theorem writeFile_singleton {s : Store}
    (h : (w.log t.record).store.openFile w.cwd (Utf8.encode t.path) t.mode = .ok (s, id)) :
    w.writeFile t [b] = World.writeOpen { w with store := s } t.path id b := by
  rw [writeFile_of_open h, writeAll_cons, writeOpen]
  rcases World.append { w with store := s } b.writer id b.bytes with ⟨w₁, e | _⟩ <;> rfl

theorem writeFile_pair {s : Store}
    (h : (w.log t.record).store.openFile w.cwd (Utf8.encode t.path) t.mode = .ok (s, id)) :
    w.writeFile t [a, b] =
      match World.writeOpen { w with store := s } t.path id a with
      | (w₁, .error e) => (w₁, .error e)
      | (w₁, .ok ()) => w₁.writeOpen t.path id b := by
  rw [writeFile_of_open h, writeAll_cons, writeOpen]
  rcases World.append { w with store := s } a.writer id a.bytes with ⟨w₁, e | _⟩
  · rfl
  · have hok : Except.mapError (RouteError.writeFailed t.path) (.ok ()) = .ok () := rfl
    simp only [writeAll_cons, writeOpen, hok]
    rcases w₁.append b.writer id b.bytes with ⟨w₂, e | _⟩ <;> rfl

/-- A payload that cannot be written ends the writing. -/
theorem writeFile_error {e : RouteError} (h : w.writeFile t [a] = (w₁, .error e)) (b : Payload) :
    w.writeFile t [a, b] = (w₁, .error e) := by
  cases hopen : (w.log t.record).store.openFile w.cwd (Utf8.encode t.path) t.mode with
  | error cause =>
    rw [writeFile_of_open_error hopen] at h ⊢
    exact h
  | ok opened =>
    obtain ⟨s, id⟩ := opened
    rw [writeFile_singleton hopen] at h
    rw [writeFile_pair hopen, h]

/-- After a first payload the second one is written to the same node, whether or not the target is
opened again. A second opening only writes its record. -/
theorem writeFile_then (h : w.writeFile t [a] = (w₁, .ok ())) (b : Payload) :
    ∃ id, w₁.LeadsTo t id ∧ w.writeFile t [a, b] = w₁.writeOpen t.path id b ∧
      w₁.writeFile ⟨t.path, .append⟩ [b] =
        (w₁.log (Redirection.record ⟨t.path, .append⟩)).writeOpen t.path id b := by
  cases hopen : (w.log t.record).store.openFile w.cwd (Utf8.encode t.path) t.mode with
  | error cause =>
    rw [writeFile_of_open_error hopen] at h
    cases h
  | ok opened =>
    obtain ⟨s, id⟩ := opened
    have hpair := writeFile_pair (a := a) (b := b) hopen
    rw [writeFile_singleton hopen] at h
    rw [h] at hpair
    have hworld : (World.append { w with store := s } a.writer id a.bytes).1 = w₁ :=
      (Prod.mk.inj h).1
    rw [append_world] at hworld
    subst hworld
    -- Since the opening, bytes have been written to files and nothing else has been done.
    generalize World.fitting { w with store := s } a.writer id a.bytes = taken at hpair ⊢
    have hshape := sameShape_append s id taken
    refine ⟨id, pathsStay_of_sameShape hshape _ _ _ (leadsTo_of_openFile hopen), hpair, ?_⟩
    obtain ⟨v, hlog, hlogged, _⟩ :=
      log_store { w with store := s.append id taken } (Redirection.record ⟨t.path, .append⟩)
    have hagain := openFile_again hopen (hshape.trans hlogged)
    rw [hlog, writeFile_singleton (by rw [hlog]; exact hagain)]

theorem sameBut_log {l : Logger} (h : w.logger = some l) (r : LogRecord) :
    Store.SameBut l.file w.store (w.log r).store := by
  simp only [log, h]
  split
  · rw [append_world]
    exact sameBut_append _ _ _
  · exact .refl _ _

/-- A record in between makes no difference but in the log. -/
theorem writeOpen_log (w : World) (r : LogRecord) (path : String) (id : NodeId) (p : Payload) :
    ((w.log r).writeOpen path id p).2 = (w.writeOpen path id p).2 ∧
      ∀ l, w.logger = some l →
        SameBut l.file (w.writeOpen path id p).1 ((w.log r).writeOpen path id p).1 := by
  cases hlogger : w.logger with
  | none =>
    rw [log_eq_self hlogger]
    exact ⟨rfl, fun l hl => nomatch hl⟩
  | some l =>
    have hstore := sameBut_log hlogger r
    have hsame := w.outputOnly_log r
    have hcapacity := capacity_of_sameShape hstore.shape hsame.room p.writer id p.bytes
    constructor
    · simp only [writeOpen, append, hcapacity]
    · intro k hk
      cases hk
      simp only [writeOpen, append, hcapacity]
      obtain ⟨s, hlog, _⟩ := w.log_store r
      rw [hlog] at hstore ⊢
      exact ⟨hstore.append id _, rfl, rfl, rfl, rfl, rfl, rfl, rfl, rfl, rfl⟩

/-! ## Routing the streams apart -/

/-- Routes each stream on its own: standard error only if standard output has been delivered. -/
def routeApart (w : World) (o : Output) (out err : Redirection) :
    World × Except RouteError Unit :=
  match w.route ⟨o.stdout, []⟩ ⟨some out, none⟩ with
  | (w, .error e) => (w, .error e)
  | (w, .ok ()) => w.route ⟨[], o.stderr⟩ ⟨none, some err⟩

theorem route_stderr (w : World) (t : Redirection) (b : Bytes) :
    w.route ⟨[], b⟩ ⟨none, some t⟩ = w.writeFile t [⟨.stderr, b⟩] :=
  rfl

theorem sharedMode_append (m : WriteMode) : sharedMode m .append = m := by
  cases m <;> rfl

theorem sharedMode_truncate (m : WriteMode) : sharedMode m .truncate = .truncate := by
  cases m <;> rfl

/-- A shared path is opened as standard output wants it if standard error is appended. -/
theorem route_append (w : World) (o : Output) (t : Redirection) :
    w.route o ⟨some t, some ⟨t.path, .append⟩⟩ = w.writeFile t o.payloads := by
  have hroute : w.route o ⟨some t, some ⟨t.path, .append⟩⟩ =
      w.writeFile ⟨t.path, sharedMode t.mode .append⟩ o.payloads := route_shared rfl
  rwa [sharedMode_append] at hroute

theorem routeApart_error {e : RouteError} (h : w.writeFile t [⟨.stdout, o.stdout⟩] = (w₁, .error e))
    (err : Redirection) : w.routeApart o t err = (w₁, .error e) := by
  rw [routeApart, route_stdout, h]

theorem routeApart_ok (h : w.writeFile t [⟨.stdout, o.stdout⟩] = (w₁, .ok ())) (err : Redirection) :
    w.routeApart o t err = w₁.writeFile err [⟨.stderr, o.stderr⟩] := by
  rw [routeApart, route_stdout, h]
  exact w₁.route_stderr err o.stderr

/-! ### Standard error is appended -/

/-- The streams go the same way, except that a record is written between them if each has an opening
of its own. -/
theorem routeApart_append (w : World) (o : Output) (t : Redirection) :
    (∃ w₁ e, w.writeFile t [⟨.stdout, o.stdout⟩] = (w₁, .error e) ∧
        w.route o ⟨some t, some ⟨t.path, .append⟩⟩ = (w₁, .error e) ∧
        w.routeApart o t ⟨t.path, .append⟩ = (w₁, .error e)) ∨
      ∃ w₁ id, w.writeFile t [⟨.stdout, o.stdout⟩] = (w₁, .ok ()) ∧ w₁.LeadsTo t id ∧
        w.route o ⟨some t, some ⟨t.path, .append⟩⟩ = w₁.writeOpen t.path id ⟨.stderr, o.stderr⟩ ∧
        w.routeApart o t ⟨t.path, .append⟩ =
          (w₁.log (Redirection.record ⟨t.path, .append⟩)).writeOpen t.path id
            ⟨.stderr, o.stderr⟩ := by
  rw [route_append]
  rcases hfirst : w.writeFile t [⟨.stdout, o.stdout⟩] with ⟨w₁, e | _⟩
  · exact Or.inl ⟨w₁, e, rfl, writeFile_error hfirst _, routeApart_error hfirst _⟩
  · obtain ⟨id, hleads, honce, hagain⟩ := writeFile_then hfirst ⟨.stderr, o.stderr⟩
    exact Or.inr ⟨w₁, id, rfl, hleads, honce, (routeApart_ok hfirst _).trans hagain⟩

/-- Nothing is different but what the log holds. -/
theorem routeApart_same (w : World) (o : Output) (t : Redirection) :
    let once := w.route o ⟨some t, some ⟨t.path, .append⟩⟩
    let twice := w.routeApart o t ⟨t.path, .append⟩
    twice.2 = once.2 ∧ (w.Quiet → twice = once) ∧
      ∀ l, w.logger = some l → SameBut l.file once.1 twice.1 := by
  intro once twice
  rcases w.routeApart_append o t with
    ⟨w₁, e, _, honce, htwice⟩ | ⟨w₁, id, hfirst, _, honce, htwice⟩
  · have hsame : twice = once := htwice.trans honce.symm
    rw [hsame]
    exact ⟨rfl, fun _ => rfl, fun l _ => .refl l.file _⟩
  · have hlogger : w₁.logger = w.logger := by
      have hroute := w.outputOnly_route ⟨o.stdout, []⟩ ⟨some t, none⟩
      rw [route_stdout, hfirst] at hroute
      exact hroute.logger
    obtain ⟨hresult, hworlds⟩ :=
      w₁.writeOpen_log (Redirection.record ⟨t.path, .append⟩) t.path id ⟨.stderr, o.stderr⟩
    rw [← honce, ← htwice] at hresult hworlds
    refine ⟨hresult, fun hquiet => ?_, fun l hl => hworlds l (hlogger.trans hl)⟩
    have hquiet' : w₁.Quiet := by
      rw [Quiet, hlogger]
      exact hquiet
    rw [hquiet'.log_eq_self rfl] at htwice
    exact htwice.trans honce.symm

/-! ### Standard error empties the file -/

/-- A file that is opened once keeps both streams, and one that is opened twice keeps standard error
only. -/
theorem read_of_truncate {p : Place} (h : Target w.store w.cwd (Utf8.encode path) p) (o : Output)
    (hroom : w.RoomFor o.stdout) (hroom' : w.RoomFor o.stderr) (m : WriteMode) :
    ∃ v v', w.route o ⟨some ⟨path, m⟩, some ⟨path, .truncate⟩⟩ = ({ w with store := v }, .ok ()) ∧
      v.read w.cwd (Utf8.encode path) = .ok (o.stdout ++ o.stderr) ∧
      w.routeApart o ⟨path, m⟩ ⟨path, .truncate⟩ = ({ w with store := v' }, .ok ()) ∧
      v'.read w.cwd (Utf8.encode path) = .ok o.stderr := by
  have hboth : ∀ x ∈ o.payloads, w.RoomFor x.bytes := by simp [Output.payloads, hroom, hroom']
  obtain ⟨v, id, hshared, hstored⟩ := writeFile_of_room (t := ⟨path, .truncate⟩) h hboth
  obtain ⟨u, id', hfirst, hstored'⟩ :=
    writeFile_of_room (t := ⟨path, m⟩) h (w.roomFor_singleton .stdout hroom)
  obtain ⟨v', id'', hsecond, hlast⟩ :=
    writeFile_of_room (w := { w with store := u }) (t := ⟨path, .truncate⟩)
      (hstored'.target_self h) (roomFor_singleton _ .stderr hroom')
  refine ⟨v, v', ?_, ?_, (routeApart_ok hfirst _).trans hsecond, ?_⟩
  · have hroute : w.route o ⟨some ⟨path, m⟩, some ⟨path, .truncate⟩⟩ =
        w.writeFile ⟨path, sharedMode m .truncate⟩ o.payloads := route_shared rfl
    rw [hroute, sharedMode_truncate, hshared]
  · rw [o.flatMap_payloads] at hstored
    simpa [base] using hstored.read_self h
  · simpa [base] using hlast.read_self (hstored'.target_self h)

/-! ### Both ways compared -/

/-- A path that both streams share may as well be opened for each of them, if standard error is
appended: the result is the same, and so are all files unless the log is a detailed one. Both ways
fail alike, or the same bytes of standard error come to the same file behind the same standard
output, and the second opening writes its record before them; only the log can tell. If standard
error empties the file, and there is room for what is written, the single opening keeps both
streams, and the second of two openings takes standard output away. -/
theorem route_openedOnce (w : World) (o : Output) (path : String) (m : WriteMode) :
    let once := w.route o ⟨some ⟨path, m⟩, some ⟨path, .append⟩⟩
    let twice := w.routeApart o ⟨path, m⟩ ⟨path, .append⟩
    (twice.2 = once.2 ∧ (w.Quiet → twice = once) ∧
      ∀ l, w.logger = some l → SameBut l.file once.1 twice.1) ∧
    ((∃ w₁ e, once = (w₁, .error e) ∧ twice = (w₁, .error e)) ∨
      ∃ w₁ id, w.route ⟨o.stdout, []⟩ ⟨some ⟨path, m⟩, none⟩ = (w₁, .ok ()) ∧
        w₁.LeadsTo ⟨path, m⟩ id ∧ once = w₁.writeOpen path id ⟨.stderr, o.stderr⟩ ∧
        twice = (w₁.log (Redirection.record ⟨path, .append⟩)).writeOpen path id
          ⟨.stderr, o.stderr⟩) ∧
    ∀ p, Target w.store w.cwd (Utf8.encode path) p → w.RoomFor o.stdout → w.RoomFor o.stderr →
      ∃ v v', w.route o ⟨some ⟨path, m⟩, some ⟨path, .truncate⟩⟩ = ({ w with store := v }, .ok ()) ∧
        v.read w.cwd (Utf8.encode path) = .ok (o.stdout ++ o.stderr) ∧
        w.routeApart o ⟨path, m⟩ ⟨path, .truncate⟩ = ({ w with store := v' }, .ok ()) ∧
        v'.read w.cwd (Utf8.encode path) = .ok o.stderr := by
  intro once twice
  refine ⟨w.routeApart_same o ⟨path, m⟩, ?_,
    fun p hp hroom hroom' => read_of_truncate hp o hroom hroom' m⟩
  rcases w.routeApart_append o ⟨path, m⟩ with
    ⟨w₁, e, _, honce, htwice⟩ | ⟨w₁, id, hfirst, hleads, honce, htwice⟩
  · exact Or.inl ⟨w₁, e, honce, htwice⟩
  · have hroute := (w.route_stdout ⟨path, m⟩ o.stdout).trans hfirst
    exact Or.inr ⟨w₁, id, hroute, hleads, honce, htwice⟩

/-- With a link and without a log, the name that it stands for is opened once or twice; with a log,
the log itself is. -/
theorem route_openedOnce_log :
    (withLink.Quiet ∧
      withLink.routeApart ⟨[111], [101]⟩ ⟨"to f", .append⟩ ⟨"to f", .append⟩ =
        withLink.route ⟨[111], [101]⟩ ⟨some ⟨"to f", .append⟩, some ⟨"to f", .append⟩⟩) ∧
    (withLog.logger = some ⟨.trace, .trace, 1⟩ ∧
      SameBut 1 (withLog.route ⟨[111], [101]⟩ ⟨some ⟨"log", .truncate⟩, some ⟨"log", .append⟩⟩).1
        (withLog.routeApart ⟨[111], [101]⟩ ⟨"log", .truncate⟩ ⟨"log", .append⟩).1) ∧
    Target withLink.store withLink.cwd (Utf8.encode "f") (.found 1) ∧
      withLink.RoomFor [111] ∧ withLink.RoomFor [101] ∧
      ∃ v, withLink.routeApart ⟨[111], [101]⟩ ⟨"f", .append⟩ ⟨"f", .truncate⟩ =
          ({ withLink with store := v }, .ok ()) ∧
        v.read withLink.cwd (Utf8.encode "f") = .ok [101] := by
  have hquiet : withLink.Quiet := fun l hl => nomatch hl
  have htarget : Target withLink.store withLink.cwd (Utf8.encode "f") (.found 1) :=
    target_withLink (by decide)
  obtain ⟨⟨_, hsame, _⟩, _⟩ := withLink.route_openedOnce ⟨[111], [101]⟩ "to f" .append
  obtain ⟨⟨_, _, hlog⟩, _⟩ := withLog.route_openedOnce ⟨[111], [101]⟩ "log" .truncate
  obtain ⟨_, _, hempties⟩ := withLink.route_openedOnce ⟨[111], [101]⟩ "f" .append
  have hroom : ∀ b, withLink.RoomFor b := fun b _ _ => Nat.le_refl b.length
  obtain ⟨_, v, _, _, htwice, hread⟩ := hempties _ htarget (hroom _) (hroom _)
  exact ⟨⟨hquiet, hsame hquiet⟩, ⟨rfl, hlog _ rfl⟩, htarget, hroom _, hroom _, v, htwice, hread⟩

/-- The files are not the same if the path is that of the log. -/
theorem log_opened_twice :
    ¬ ∀ (w : World) (o : Output) (path : String) (m : WriteMode) (p : Place),
      Target w.store w.cwd (Utf8.encode path) p →
      (w.routeApart o ⟨path, m⟩ ⟨path, .append⟩).1.store.read w.cwd (Utf8.encode path) =
        (w.route o ⟨some ⟨path, m⟩, some ⟨path, .append⟩⟩).1.store.read w.cwd
          (Utf8.encode path) := by
  intro h
  have hsame := h withLog ⟨[111, 10], [101]⟩ "log" .truncate (.found 1) (.file rfl rfl)
  cases hsame

end World

end CommandShell
