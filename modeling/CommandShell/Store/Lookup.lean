import CommandShell.Store.Basic

/-!
# Finding a path

`Store.walk` follows the parts of a path from a directory up to the last part or to a symbolic
link; `Store.follow` goes on from link to link, forty times at most. The outcome is a node, or a
directory in which a last name is missing and could be entered. `Store.lookup` finds what exists.
-/

namespace CommandShell.Store

/-- Where a walk stops that meets no further link. -/
inductive Place where
  /-- At a node, which is no link. -/
  | found (id : NodeId)
  /-- In a directory that has no entry of the last name. -/
  | vacant (dir : NodeId) (name : Bytes)
  deriving DecidableEq, Repr

/-- Where a walk stops. -/
inductive Stop where
  | place (p : Place)
  /-- At a link in a directory, with the parts that follow it. -/
  | link (dir : NodeId) (target : Bytes) (rest : List Bytes)
  deriving DecidableEq, Repr

/-- The node that one part of a path leads to from a directory. A directory that is removed holds
no name, not even one that is too long. -/
def child (s : Store) (dir : NodeId) (name : Bytes) : Except Errno (Option NodeId) :=
  match s.node? dir with
  | some (.dir es parent linked) =>
    if name = Path.here then .ok (some dir)
    else if name = Path.up then .ok (some parent)
    else if !linked then .ok none
    else if Path.maxNameLength < name.length then .error .nameTooLong
    else .ok (es.lookup name)
  | _ => .error .notDirectory

/-- Follows the parts of a path. A last part that is to be created but ends in a separator names a
directory, so nothing can be written to it. -/
def walk (s : Store) (createDir : Bool) (dir : NodeId) : List Bytes → Except Errno Stop
  | [] => .ok (.place (.found dir))
  | name :: rest =>
    if createDir && rest.isEmpty then
      .error (if s.isDir dir then .isDirectory else .notDirectory)
    else
      match s.child dir name with
      | .error e => .error e
      | .ok none => if rest.isEmpty then .ok (.place (.vacant dir name)) else .error .noEntry
      | .ok (some id) =>
        match s.node? id with
        | some (.link target) => .ok (.link dir target rest)
        | _ => walk s createDir id rest

/-- Follows the parts of a path through links, as often as `budget` says. Tells where it leads and
whether a directory is demanded there. -/
def follow (s : Store) (create : Bool) :
    (budget : Nat) → NodeId → List Bytes → Bool → Except Errno (Place × Bool)
  | budget, dir, parts, slash =>
    match s.walk (create && slash) dir parts with
    | .error e => .error e
    | .ok (.place p) => .ok (p, slash)
    | .ok (.link dir target rest) =>
      match budget with
      | 0 => .error .tooManyLinks
      | budget + 1 =>
        let p := Path.split target
        follow s create budget (if p.absolute then root else dir) (p.parts ++ rest)
          (if rest.isEmpty then slash || p.slash else slash)

/-- How many links may be followed on the way to one node. -/
def maxLinks : Nat := 40

/-- Where a path leads from a directory. -/
def locate (s : Store) (create : Bool) (cwd : NodeId) (path : Bytes) :
    Except OsError (Place × Bool) :=
  match Path.parse path with
  | .error e => .error e
  | .ok p =>
    (s.follow create maxLinks (if p.absolute then root else cwd) p.parts p.slash).mapError .errno

/-- The node that a path leads to. -/
def lookup (s : Store) (cwd : NodeId) (path : Bytes) : Except OsError NodeId :=
  match s.locate false cwd path with
  | .error e => .error e
  | .ok (.vacant .., _) => .error (.errno .noEntry)
  | .ok (.found id, slash) =>
    if slash && !s.isDir id then .error (.errno .notDirectory) else .ok id

/-- Whether a path leads to anything. -/
def pathExists (s : Store) (cwd : NodeId) (path : Bytes) : Bool :=
  (s.lookup cwd path).isOk

/-- The directory that a path leads to. -/
def lookupDir (s : Store) (cwd : NodeId) (path : Bytes) : Except OsError NodeId :=
  match s.lookup cwd path with
  | .error e => .error e
  | .ok id => if s.isDir id then .ok id else .error (.errno .notDirectory)

/-- The names in the directory that a path leads to. -/
def namesIn (s : Store) (cwd : NodeId) (path : Bytes) : Except OsError (List Bytes) :=
  (s.lookupDir cwd path).map fun id => (s.entries id).map Prod.fst

end CommandShell.Store
