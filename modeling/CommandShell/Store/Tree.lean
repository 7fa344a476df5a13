import CommandShell.Store.File

/-!
# The store as a tree

`Store.pathOf` climbs from a directory to the root, `Store.photograph` lists what lies below a
directory, and `Store.plant`, `Store.makeDirs` and `Store.prune` grow and cut the tree.
-/

namespace CommandShell.Store

/-- The names that lead from the root to a directory, the last one first. -/
def namesTo (s : Store) : (fuel : Nat) → NodeId → Option (List Bytes)
  | 0, _ => none
  | fuel + 1, id =>
    if id = root then some []
    else
      match s.node? id with
      | some (.dir _ parent true) =>
        match (s.entries parent).find? (·.2 = id) with
        | some (name, _) => (namesTo s fuel parent).map (name :: ·)
        | none => none
      | _ => none

/-- The absolute path of a directory, unless it has been removed. -/
def pathOf (s : Store) (id : NodeId) : Except OsError Bytes :=
  match s.namesTo s.nodes.size id with
  | none => .error (.errno .noEntry)
  | some [] => .ok [Path.separator]
  | some names => .ok (names.reverse.flatMap (Path.separator :: ·))

/-! ## Photographs -/

/-- What a photograph shows of a node. -/
inductive View where
  | dir
  | link (target : Bytes)
  | file (content : Content)
  | device
  deriving DecidableEq, Repr

/-- A node in a photograph: its path below the directory, its number and what is seen of it. -/
structure Sight where
  path : Bytes
  id : NodeId
  view : View
  deriving DecidableEq, Repr

/-- What lies below a directory. A file that its owner may not read spoils the photograph. -/
def photographFrom (s : Store) : (fuel : Nat) → Bytes → NodeId → Option (List Sight)
  | 0, _, _ => some []
  | fuel + 1, above, dir =>
    (s.entries dir).foldl (fun acc (name, id) => do
      let sights ← acc
      let path := Path.join above name
      match s.node? id with
      | some (.dir ..) =>
        let below ← photographFrom s fuel path id
        some (sights ++ ⟨path, id, .dir⟩ :: below)
      | some (.link t) => some (sights ++ [⟨path, id, .link t⟩])
      | some (.file c m) => if m.ownerReads then some (sights ++ [⟨path, id, .file c⟩]) else none
      | some (.device _) => some (sights ++ [⟨path, id, .device⟩])
      | none => some sights) (some [])

/-- What lies below a directory, unless something there cannot be read. -/
def photograph (s : Store) (dir : NodeId) : Option (List Sight) :=
  s.photographFrom s.nodes.size [] dir

/-- What has become of a path between two photographs. -/
structure Change where
  path : Bytes
  /-- What is seen there now, or nothing if the path is gone. -/
  after : Option Sight
  deriving DecidableEq, Repr

/-- The paths that the later photograph shows otherwise than the earlier one. -/
def changes (before after : List Sight) : List Change :=
  let seen (shots : List Sight) (p : Bytes) : Option Sight := shots.find? (·.path = p)
  let gone := before.filter fun b => (seen after b.path).isNone
  let fresh := after.filter fun a => (seen before a.path).map Sight.view != some a.view
  gone.map (⟨·.path, none⟩) ++ fresh.map fun a => ⟨a.path, some a⟩

/-! ## Growing and cutting -/

/-- The directory that a relative path of names leads to, made as far as it is missing. -/
def makeDirs (s : Store) (dir : NodeId) : List Bytes → Store × NodeId
  | [] => (s, dir)
  | name :: rest =>
    match s.follow false maxLinks dir [name] false with
    | .ok (.found id, _) => makeDirs s id rest
    | _ =>
      let (s, id) := s.addNode dir name (.dir [] dir true)
      makeDirs s id rest

/-- Puts a node at a relative path, in place of what is there. An existing file keeps its number.
-/
def plant (s : Store) (dir : NodeId) (names : List Bytes) (n : Node) : Store × NodeId :=
  match names.getLast? with
  | none => (s, dir)
  | some name =>
    let (s, dir) := s.makeDirs dir names.dropLast
    match (s.entries dir).lookup name with
    | some id => (s.setNode id n, id)
    | none => s.addNode dir name n

/-- Empties the directory with a number and all below it. -/
def clear (s : Store) : (fuel : Nat) → NodeId → Store
  | 0, _ => s
  | fuel + 1, id =>
    match s.node? id with
    | some (.dir es parent _) =>
      es.foldl (fun s e => clear s fuel e.2) (s.setNode id (.dir [] parent false))
    | _ => s

/-- Removes a relative path with all below it. -/
def prune (s : Store) (dir : NodeId) (names : List Bytes) : Store :=
  match names.getLast?, s.follow false maxLinks dir names.dropLast false with
  | some name, .ok (.found parent, _) =>
    match s.node? parent, (s.entries parent).lookup name with
    | some (.dir es up linked), some id =>
      let s := s.setNode parent (.dir (es.filter (·.1 != name)) up linked)
      s.clear s.nodes.size id
    | _, _ => s
  | _, _ => s

/-- Sets the permission bits of a file. -/
def setMode (s : Store) (id : NodeId) (mode : Mode) : Store :=
  match s.node? id with
  | some (.file c _) => s.setNode id (.file c mode)
  | _ => s

end CommandShell.Store
