import CommandShell.Proofs.Dispatch.EchoLine

/-!
# Runs of lines that write to files

Lines that write words to files with `echo` are run one after the other. Each file holds what has
been written to it since a line emptied it last, and if none did, that comes behind what the file
held at first. The log is a file like any other: every line adds its records to it, if the logger
lets them through.

* `Ran.cons` — what one more line does to what the others do.
* `ran_runLines` — what a whole run does to every path and every file.
* `runLines_echoes` — what is in the files in the end.
-/

namespace CommandShell

open Store

namespace World

/-- Runs lines one after the other, whatever comes of them. -/
def runLines (w : World) : List String → World × List (Except RouteError Control)
  | [] => (w, [])
  | line :: rest =>
    let (w, result) := w.runLine line
    let (w, results) := w.runLines rest
    (w, result :: results)

/-! ## The content of one file -/

section

variable {w : World} {path : String} {id : NodeId} {l : EchoLine} {lines : List EchoLine}

/-- What a file holds to which a path leads, unless it is missing. -/
def held (w : World) (s : Store) (path : String) : Option Bytes :=
  (s.read w.cwd (Utf8.encode path)).toOption

/-- What a line adds to a file that it does not empty or make: its records, if the file is the log,
and what it writes, if it writes to the path of the file. -/
def addition (w : World) (path : String) (id : NodeId) (l : EchoLine) : Bytes :=
  w.logged l.records id ++ if l.path = path then l.output else []

/-- What a file holds after a line, given what it held before. -/
def effect (w : World) (path : String) (id : NodeId) (held : Option Bytes) (l : EchoLine) :
    Option Bytes :=
  if l.path = path then
    match l.target.mode, held with
    | .append, some b => some (b ++ w.logged l.records id ++ l.output)
    | _, _ => some l.output
  else held.map (· ++ w.logged l.records id)

theorem effect_append (h : l.path = path → l.target.mode = .append) (b : Bytes) :
    w.effect path id (some b) l = some (b ++ w.addition path id l) := by
  by_cases hpath : l.path = path
  · simp only [effect, addition, if_pos hpath, h hpath, List.append_assoc]
  · simp [effect, addition, if_neg hpath]

theorem effect_start {held : Option Bytes} (hpath : l.path = path)
    (h : l.target.mode = .truncate ∨ held = none) : w.effect path id held l = some l.output := by
  rcases h with hmode | rfl
  · simp only [effect, if_pos hpath, hmode]
  · simp only [effect, if_pos hpath]
    cases l.target.mode <;> rfl

theorem effect_missing (hpath : l.path ≠ path) : w.effect path id none l = none := by
  simp only [effect, if_neg hpath, Option.map_none]

/-- Lines that do not empty a file add to it. -/
theorem foldl_effect_append (h : ∀ l ∈ lines, l.path = path → l.target.mode = .append) (b : Bytes) :
    lines.foldl (w.effect path id) (some b) = some (b ++ lines.flatMap (w.addition path id)) := by
  induction lines generalizing b with
  | nil => simp
  | cons l rest ih =>
    rw [List.foldl_cons, effect_append (h l List.mem_cons_self),
      ih fun m hm => h m (List.mem_cons_of_mem l hm), List.flatMap_cons, List.append_assoc]

theorem foldl_effect_missing (h : ∀ l ∈ lines, l.path ≠ path) :
    lines.foldl (w.effect path id) none = none := by
  induction lines with
  | nil => rfl
  | cons l rest ih =>
    rw [List.foldl_cons, effect_missing (h l List.mem_cons_self)]
    exact ih fun m hm => h m (List.mem_cons_of_mem l hm)

/-- A line that empties or makes a file is the first one of which something is left. -/
theorem foldl_effect_start {before after : List EchoLine} {held : Option Bytes}
    (hpath : l.path = path)
    (hstart : l.target.mode = .truncate ∨ held = none ∧ ∀ m ∈ before, m.path ≠ path)
    (hafter : ∀ m ∈ after, m.path = path → m.target.mode = .append) :
    (before ++ l :: after).foldl (w.effect path id) held =
      some (l.output ++ after.flatMap (w.addition path id)) := by
  rw [List.foldl_append, List.foldl_cons, effect_start hpath, foldl_effect_append hafter]
  rcases hstart with hmode | ⟨rfl, hbefore⟩
  · exact Or.inl hmode
  · exact Or.inr (foldl_effect_missing hbefore)

end

/-! ## Lines that do not meet -/

/-- The lines that do not write to a path write to places that it does not lead to. -/
def Apart (w : World) (path : String) (lines : List EchoLine) : Prop :=
  ∀ l ∈ lines, l.path ≠ path → ∀ p, Target w.store w.cwd (Utf8.encode l.path) p →
    ¬ Target w.store w.cwd (Utf8.encode path) p

section

variable {w : World} {path : String} {l : EchoLine} {lines : List EchoLine} {p q : Place}
  {id : NodeId} {u s : Store} {b : Bytes}

/-- Lines that do not meet do not meet after one of them has been run, either. -/
theorem Apart.step (h : w.Apart path (l :: lines)) (hcan : ∀ m ∈ lines, w.CanOpen m.target)
    (hq : Target w.store w.cwd (Utf8.encode path) q)
    (hstored : Stored w.store u p id b (w.logged l.records)) :
    World.Apart { w with store := u } path lines := by
  intro m hm hne r hr
  obtain ⟨r₀, hr₀⟩ := hcan m hm
  have hplace : r₀ ≠ q := by
    rintro rfl
    exact h m (List.mem_cons_of_mem l hm) hne r₀ hr₀ hq
  exact hstored.targets_apart hr₀ hq hplace hr

theorem held_of_file {c : Content} {m : Mode}
    (h : Target s w.cwd (Utf8.encode path) (.found id)) (hnode : s.node? id = some (.file c m)) :
    w.held s path = some c.bytes := by
  rw [held, read_of_locate_found h.locate hnode]
  rfl

theorem held_of_vacant {dir : NodeId} {name : Bytes}
    (h : Target s w.cwd (Utf8.encode path) (.vacant dir name)) : w.held s path = none := by
  rw [held, read_of_locate_vacant h.locate]
  rfl

/-- The path that a line writes to. -/
theorem held_self (hl : Target w.store w.cwd (Utf8.encode l.path) p)
    (hstored : Stored w.store u p id (w.base l.target (w.logged l.records id) ++ l.output)
      (w.logged l.records)) :
    w.held u l.path = w.effect l.path id (w.held w.store l.path) l := by
  obtain ⟨c, m, hnode, hbytes⟩ := hstored.holds
  have hpath : l.target.path = l.path := rfl
  rw [held_of_file (hstored.target_self hl) hnode, hbytes]
  simp only [effect, if_true, base, World.held, hpath]
  cases l.target.mode with
  | truncate => rfl
  | append => cases w.store.read w.cwd (Utf8.encode l.path) <;> rfl

/-- A path that a line does not write to. -/
theorem held_other (hq : Target w.store w.cwd (Utf8.encode path) q) (hne : q ≠ p)
    (hpath : l.path ≠ path) (hstored : Stored w.store u p id b (w.logged l.records)) {j : NodeId}
    (hj : ∀ i, q = .found i → i = j) :
    w.held u path = w.effect path j (w.held w.store path) l := by
  have hq' : Target u w.cwd (Utf8.encode path) q := hstored.target_of_ne hne hq
  simp only [effect, if_neg hpath]
  cases hq with
  | @file i c m hlocate hnode =>
    obtain rfl := hj i rfl
    have hi : i ≠ id := by
      rintro rfl
      exact hstored.ne_found hne (.file hlocate hnode) rfl
    rw [held_of_file hq' ((hstored.keeps i hi).file hnode),
      held_of_file (.file hlocate hnode) hnode, Content.bytes_append]
    rfl
  | missing hlocate hdir =>
    rw [held_of_vacant hq', held_of_vacant (.missing hlocate hdir)]
    rfl

end

/-! ## Runs -/

/-- What a run of lines does to a path, which led to a place before. -/
structure RanPath (w : World) (lines : List EchoLine) (s : Store) (path : String) (p q : Place) :
    Prop where
  target : Target s w.cwd (Utf8.encode path) q
  /-- A file stays at its path. -/
  stays : ∀ id, p = .found id → q = .found id
  /-- A path that a line writes to leads to a file. -/
  file : (∃ l ∈ lines, l.path = path) → ∃ id, q = .found id
  held : ∀ id, (∀ i, q = .found i → i = id) →
    w.held s path = lines.foldl (w.effect path id) (w.held w.store path)

/-- What a run of lines leaves in a store. -/
structure Ran (w : World) (lines : List EchoLine) (s : Store) : Prop where
  paths : ∀ path p, Target w.store w.cwd (Utf8.encode path) p → w.Apart path lines →
    ∃ q, w.RanPath lines s path p q
  others : ∀ id, (∀ l ∈ lines, ¬ w.IsFile s l.target id) →
    Keeps w.store s id (w.logged (lines.flatMap (·.records)) id) ∧
      ∀ start path, s.lookup start path = .ok id ↔ w.store.lookup start path = .ok id

theorem Ran.nil (w : World) : w.Ran [] w.store where
  paths path p hp _ := by
    refine ⟨p, hp, fun _ h => h, ?_, fun _ _ => rfl⟩
    rintro ⟨l, hl, _⟩
    exact absurd hl List.not_mem_nil
  others id _ := by
    refine ⟨?_, fun _ _ => Iff.rfl⟩
    rw [List.flatMap_nil, logged_nil]
    exact .of_eq rfl

section

variable {w : World} {l : EchoLine} {lines : List EchoLine} {p : Place} {id : NodeId} {u s : Store}

/-- A path after one line and then the others. -/
theorem RanPath.cons {path : String} {q : Place}
    (hl : Target w.store w.cwd (Utf8.encode l.path) p)
    (hstored : Stored w.store u p id (w.base l.target (w.logged l.records id) ++ l.output)
      (w.logged l.records))
    (hq : Target w.store w.cwd (Utf8.encode path) q) (hapart : w.Apart path (l :: lines))
    (hrest : ∀ q₁, Target u w.cwd (Utf8.encode path) q₁ →
      ∃ q₂, World.RanPath { w with store := u } lines s path q₁ q₂) :
    ∃ q₂, w.RanPath (l :: lines) s path q q₂ := by
  by_cases hpath : l.path = path
  · subst hpath
    obtain rfl := hq.unique hl
    obtain ⟨q₂, hran⟩ := hrest _ (hstored.target_self hl)
    have hfile : q₂ = .found id := hran.stays id rfl
    refine ⟨q₂, hran.target, ?_, fun _ => ⟨id, hfile⟩, ?_⟩
    · rintro j rfl
      obtain rfl := hstored.found
      exact hfile
    · intro j hj
      obtain rfl := hj id hfile
      rw [List.foldl_cons, ← held_self hl hstored]
      exact hran.held _ hj
  · have hne : q ≠ p := by
      rintro rfl
      exact hapart l List.mem_cons_self hpath q hl hq
    obtain ⟨q₂, hran⟩ := hrest q (hstored.target_of_ne hne hq)
    refine ⟨q₂, hran.target, hran.stays, ?_, ?_⟩
    · rintro ⟨m, hm, hmpath⟩
      rcases List.mem_cons.1 hm with rfl | hm
      · exact absurd hmpath hpath
      · exact hran.file ⟨m, hm, hmpath⟩
    · intro j hj
      rw [List.foldl_cons,
        ← held_other hq hne hpath hstored fun i hi => hj i (hran.stays i hi)]
      exact hran.held j hj

/-- One line and then the others. -/
theorem Ran.cons (hcan : ∀ m ∈ lines, w.CanOpen m.target)
    (hapart : w.Apart l.path (l :: lines)) (hl : Target w.store w.cwd (Utf8.encode l.path) p)
    (hstored : Stored w.store u p id (w.base l.target (w.logged l.records id) ++ l.output)
      (w.logged l.records))
    (hrest : World.Ran { w with store := u } lines s) : w.Ran (l :: lines) s := by
  constructor
  case paths =>
    intro path q hq hpath
    exact RanPath.cons hl hstored hq hpath fun q₁ hq₁ =>
      hrest.paths path q₁ hq₁ (hpath.step hcan hq hstored)
  case others =>
    intro j hj
    -- The file that the line has written to is still at its path in the end.
    obtain ⟨q, hran⟩ := hrest.paths l.path _ (hstored.target_self hl) (hapart.step hcan hl hstored)
    have hfile : w.IsFile s l.target id := by
      have htarget := hran.target
      rw [hran.stays id rfl] at htarget
      exact htarget.fileAt
    have hne : j ≠ id := by
      rintro rfl
      exact hj l List.mem_cons_self hfile
    obtain ⟨hkeeps, hlookup⟩ := hrest.others j fun m hm => hj m (List.mem_cons_of_mem l hm)
    refine ⟨?_, fun start path => ?_⟩
    · rw [List.flatMap_cons, logged_append]
      exact (hstored.keeps j hne).trans hkeeps
    · rw [hlookup, hstored.lookup j hne]

/-- A run goes on whatever it writes, and leaves all but the files as it was. -/
theorem ran_runLines (w : World) (hcan : ∀ l ∈ lines, w.CanOpen l.target)
    (hapart : ∀ l ∈ lines, w.Apart l.path lines) (hroom : ∀ l ∈ lines, w.RoomFor l.output) :
    ∃ s, w.runLines (lines.map EchoLine.text) =
        ({ w with store := s }, lines.map fun _ => .ok .continue) ∧ w.Ran lines s := by
  induction lines generalizing w with
  | nil => exact ⟨w.store, rfl, .nil w⟩
  | cons l rest ih =>
    obtain ⟨p, hl⟩ := hcan l List.mem_cons_self
    have hcanRest : ∀ m ∈ rest, w.CanOpen m.target := fun m hm =>
      hcan m (List.mem_cons_of_mem l hm)
    obtain ⟨u, id, hrun, hstored⟩ := runLine_echo hl (hroom l List.mem_cons_self)
    obtain ⟨s, hruns, hran⟩ := ih { w with store := u }
      (fun m hm => by
        obtain ⟨q, hq⟩ := hcanRest m hm
        exact hstored.exists_target hq)
      (fun m hm => by
        obtain ⟨q, hq⟩ := hcanRest m hm
        exact (hapart m (List.mem_cons_of_mem l hm)).step hcanRest hq hstored)
      (fun m hm => hroom m (List.mem_cons_of_mem l hm))
    refine ⟨s, ?_, .cons hcanRest (hapart l List.mem_cons_self) hl hstored hran⟩
    rw [List.map_cons, runLines, hrun]
    simp only [hruns, List.map_cons]

end

/-! ## The files in the end -/

/-- What lines that write to files leave in them. -/
structure EchoesDelivered (w : World) (lines : List EchoLine) (s : Store) : Prop where
  exist : ∀ l ∈ lines, ∃ id, w.IsFile s l.target id
  /-- A file holds all that has been written to it since a line emptied it last, or made it. -/
  started : ∀ before l after id, lines = before ++ l :: after →
    (l.target.mode = .truncate ∨
      w.store.pathExists w.cwd (Utf8.encode l.path) = false ∧ ∀ m ∈ before, m.path ≠ l.path) →
    (∀ m ∈ after, m.path = l.path → m.target.mode = .append) → w.IsFile s l.target id →
    s.bytesAt (.found id) = l.output ++ after.flatMap (w.addition l.path id)
  /-- A file that no line empties holds what it held at first and then all that was written. -/
  kept : ∀ l ∈ lines, ∀ id old, (∀ m ∈ lines, m.path = l.path → m.target.mode = .append) →
    w.store.read w.cwd (Utf8.encode l.path) = .ok old → w.IsFile s l.target id →
    s.bytesAt (.found id) = old ++ lines.flatMap (w.addition l.path id)
  /-- What no line writes to is kept, and the paths that lead to it stay the same. -/
  others : ∀ id, (∀ l ∈ lines, ¬ w.IsFile s l.target id) →
    Keeps w.store s id (w.logged (lines.flatMap (·.records)) id) ∧
      ∀ start path, s.lookup start path = .ok id ↔ w.store.lookup start path = .ok id

section

variable {w : World} {l : EchoLine} {lines : List EchoLine} {p : Place} {id : NodeId} {u s : Store}

/-- The file that a line has written to. -/
theorem Ran.bytesAt (h : w.Ran lines s) (hl : l ∈ lines) (hcan : w.CanOpen l.target)
    (hapart : w.Apart l.path lines) (hfile : w.IsFile s l.target id) :
    some (s.bytesAt (.found id)) =
      lines.foldl (w.effect l.path id) (w.held w.store l.path) := by
  obtain ⟨p, hp⟩ := hcan
  obtain ⟨q, hran⟩ := h.paths l.path p hp hapart
  obtain ⟨j, rfl⟩ := hran.file ⟨l, hl, rfl⟩
  obtain rfl := hfile.unique hran.target.fileAt
  rw [← hran.held id fun i hi => (Place.found.inj hi).symm]
  obtain ⟨_, c, m, hnode⟩ := hfile
  rw [held_of_file hran.target hnode, Store.bytesAt, hnode]

theorem held_of_not_pathExists {path : String}
    (h : s.pathExists w.cwd (Utf8.encode path) = false) : w.held s path = none := by
  rw [pathExists] at h
  rw [held, Store.read]
  cases hlookup : s.lookup w.cwd (Utf8.encode path) with
  | error e => rfl
  | ok id =>
    rw [hlookup] at h
    cases h

theorem Ran.delivered (h : w.Ran lines s) (hcan : ∀ l ∈ lines, w.CanOpen l.target)
    (hapart : ∀ l ∈ lines, w.Apart l.path lines) : w.EchoesDelivered lines s := by
  constructor
  case exist =>
    intro l hl
    obtain ⟨p, hp⟩ := hcan l hl
    obtain ⟨q, hran⟩ := h.paths l.path p hp (hapart l hl)
    obtain ⟨id, rfl⟩ := hran.file ⟨l, hl, rfl⟩
    exact ⟨id, hran.target.fileAt⟩
  case started =>
    rintro before l after id rfl hstart hafter hfile
    have hl : l ∈ before ++ l :: after := by simp
    have hbytes := h.bytesAt hl (hcan l hl) (hapart l hl) hfile
    rw [foldl_effect_start rfl (hstart.imp_right fun ⟨hnone, hbefore⟩ =>
      ⟨held_of_not_pathExists hnone, hbefore⟩) hafter] at hbytes
    exact Option.some.inj hbytes
  case kept =>
    intro l hl id old happend hold hfile
    have hbytes := h.bytesAt hl (hcan l hl) (hapart l hl) hfile
    have hheld : w.held w.store l.path = some old := by
      rw [held, hold]
      rfl
    rw [hheld, foldl_effect_append happend] at hbytes
    exact Option.some.inj hbytes
  case others => exact h.others

end

/-- Lines that write words to files that have room for them, each path to a file of its own, all go
on, leave the consoles alone, and leave in each file what has been written to it. -/
theorem runLines_echoes (w : World) (lines : List EchoLine)
    (hcan : ∀ l ∈ lines, w.CanOpen l.target) (hapart : ∀ l ∈ lines, w.Apart l.path lines)
    (hroom : ∀ l ∈ lines, w.RoomFor l.output) :
    ∃ s, w.runLines (lines.map EchoLine.text) =
        ({ w with store := s }, lines.map fun _ => .ok .continue) ∧
      w.EchoesDelivered lines s := by
  obtain ⟨s, hrun, hran⟩ := ran_runLines w hcan hapart hroom
  exact ⟨s, hrun, hran.delivered hcan hapart⟩

/-! ### With a log -/

/-- A file is emptied, a new one is made, and the first one is written to again. -/
def threeEchoes : List EchoLine :=
  [⟨["n", "it's"], ">", "a", by decide, by decide⟩, ⟨[], ">>", "b", by decide, by decide⟩,
    ⟨[">x"], "1>>", "a", by decide, by decide⟩]

theorem path_threeEchoes {l : EchoLine} (hl : l ∈ threeEchoes) : l.path = "a" ∨ l.path = "b" := by
  have hall : ∀ l ∈ threeEchoes, l.path = "a" ∨ l.path = "b" := by decide
  exact hall l hl

theorem target_a_withLog :
    Target withLog.store withLog.cwd (Utf8.encode "a") (.found 2) :=
  .file rfl rfl

theorem target_b_withLog :
    Target withLog.store withLog.cwd (Utf8.encode "b") (.vacant Store.root (Utf8.encode "b")) :=
  .missing rfl rfl

theorem canOpen_threeEchoes : ∀ l ∈ threeEchoes, withLog.CanOpen l.target := by
  intro l hl
  have hpath : l.target.path = l.path := rfl
  rw [CanOpen, hpath]
  rcases path_threeEchoes hl with ha | hb
  · exact ⟨_, ha ▸ target_a_withLog⟩
  · exact ⟨_, hb ▸ target_b_withLog⟩

theorem apart_threeEchoes : ∀ l ∈ threeEchoes, withLog.Apart l.path threeEchoes := by
  intro l hl m hm hne p hp hp'
  rcases path_threeEchoes hl with ha | hb <;> rcases path_threeEchoes hm with ha' | hb'
  · exact hne (ha'.trans ha.symm)
  · rw [hb'] at hp
    rw [ha] at hp'
    cases (hp.unique target_b_withLog).symm.trans (hp'.unique target_a_withLog)
  · rw [ha'] at hp
    rw [hb] at hp'
    cases (hp.unique target_a_withLog).symm.trans (hp'.unique target_b_withLog)
  · exact hne (hb'.trans hb.symm)

theorem roomFor_threeEchoes : ∀ l ∈ threeEchoes, withLog.RoomFor l.output :=
  fun l _ _ _ => Nat.le_refl l.output.length

theorem runLines_threeEchoes :
    (∀ l ∈ threeEchoes, withLog.CanOpen l.target) ∧
      (∀ l ∈ threeEchoes, withLog.Apart l.path threeEchoes) ∧
      (∀ l ∈ threeEchoes, withLog.RoomFor l.output) ∧
      ∃ s, withLog.runLines (threeEchoes.map EchoLine.text) =
          ({ withLog with store := s }, threeEchoes.map fun _ => .ok .continue) ∧
        withLog.EchoesDelivered threeEchoes s :=
  ⟨canOpen_threeEchoes, apart_threeEchoes, roomFor_threeEchoes,
    withLog.runLines_echoes threeEchoes canOpen_threeEchoes apart_threeEchoes roomFor_threeEchoes⟩

/-- The log changes although no line writes to it. -/
theorem log_grows_withLog :
    ¬ ∀ (w : World) (lines : List EchoLine), (∀ l ∈ lines, w.CanOpen l.target) →
      (∀ l ∈ lines, w.Apart l.path lines) → (∀ l ∈ lines, w.RoomFor l.output) →
      ∀ id, (∀ l ∈ lines, ¬ w.IsFile (w.runLines (lines.map EchoLine.text)).1.store l.target id) →
        (w.runLines (lines.map EchoLine.text)).1.store.bytesAt (.found id) =
          w.store.bytesAt (.found id) := by
  intro h
  have hlog : ∀ l ∈ threeEchoes, ¬ withLog.IsFile
      (withLog.runLines (threeEchoes.map EchoLine.text)).1.store l.target 1 := by
    intro l hl hfile
    have hlookup : ∀ l ∈ threeEchoes,
        ((withLog.runLines (threeEchoes.map EchoLine.text)).1.store.lookup withLog.cwd
          (Utf8.encode l.target.path)).toOption ≠ some 1 := by decide +kernel
    exact hlookup l hl (congrArg Except.toOption hfile.1)
  have hsame := h withLog threeEchoes canOpen_threeEchoes apart_threeEchoes roomFor_threeEchoes 1
    hlog
  have hgrown : (withLog.runLines (threeEchoes.map EchoLine.text)).1.store.bytesAt (.found 1) ≠
      withLog.store.bytesAt (.found 1) := by decide +kernel
  exact hgrown hsame

end World

end CommandShell
