import CommandShell.Store.Path

/-!
# The file store

A store holds files, directories, symbolic links and devices. Each has a number, which it keeps for
good: a file that has been removed from its directory can still be written by who has it open, and
a process can stand in a directory that no longer has a path. Node 0 is the root directory.

The shell runs as the user `root`, to whom no file is closed. The permission bits of a file count
only when it is to be run, which takes one bit at least even for `root`.
-/

namespace CommandShell

/-- The number of a node of a store. -/
abbrev NodeId := Nat

/-- How a program ends. -/
inductive ProgramEnd where
  | status (code : Nat)
  | signal (number : Nat)
  deriving DecidableEq, Repr

/-- What is in a program file: what the program does if nothing else is said of it. It writes fixed
texts, then what it is asked to show of its surroundings, and ends. -/
structure Program where
  /-- The bytes of the file. -/
  code : Bytes := []
  /-- Written to standard output first. -/
  out : Bytes := []
  /-- Written to standard error. -/
  err : Bytes := []
  /-- Show each argument on a line of its own, in brackets. -/
  showArguments : Bool := false
  /-- Show the current directory. -/
  showDirectory : Bool := false
  /-- Show whether standard input has a line. -/
  showInput : Bool := false
  /-- How the program ends. -/
  ending : ProgramEnd := .status 0
  deriving DecidableEq, Repr

/-- What a file holds: bytes, of which the last one comes first, or a program. -/
inductive Content where
  | data (reversed : Bytes)
  | program (p : Program)
  deriving DecidableEq, Repr

/-- The content of a file of bytes. -/
def Content.ofBytes (b : Bytes) : Content :=
  .data b.reverse

/-- The devices: one drops all it is given, the other takes nothing. -/
inductive Device where
  | null
  | full
  deriving DecidableEq, Repr

/-- The permission bits of a file, of which `canRun` is the only use the shell makes. -/
abbrev Mode := Nat

namespace Mode

/-- Read and write for the owner, read for all. -/
def plain : Mode := 0o644

/-- As `plain`, and all may run the file. -/
def executable : Mode := 0o755

/-- Whether anyone may run the file. -/
def canRun (m : Mode) : Bool := m &&& 0o111 != 0

/-- Whether the owner may read the file. -/
def ownerReads (m : Mode) : Bool := m &&& 0o400 != 0

end Mode

/-- A node of a store. -/
inductive Node where
  | file (content : Content) (mode : Mode)
  /-- A directory with its entries and its parent; it is no longer `linked` once it is removed. -/
  | dir (entries : List (Bytes × NodeId)) (parent : NodeId) (linked : Bool)
  | link (target : Bytes)
  | device (d : Device)
  deriving DecidableEq, Repr

/-- The nodes of a file system by their numbers. -/
structure Store where
  nodes : Array Node
  deriving DecidableEq, Repr

namespace Store

/-- The number of the root directory. -/
def root : NodeId := 0

/-- The store that holds an empty root directory and nothing else. -/
def empty : Store := ⟨#[.dir [] root true]⟩

/-- The node with a number. -/
def node? (s : Store) (id : NodeId) : Option Node :=
  s.nodes[id]?

/-- Replaces the node with a number. -/
def setNode (s : Store) (id : NodeId) (n : Node) : Store :=
  ⟨s.nodes.setIfInBounds id n⟩

/-- Whether a number belongs to a directory. -/
def isDir (s : Store) (id : NodeId) : Bool :=
  match s.node? id with
  | some (.dir ..) => true
  | _ => false

/-- The entries of a directory; anything else has none. -/
def entries (s : Store) (id : NodeId) : List (Bytes × NodeId) :=
  match s.node? id with
  | some (.dir es ..) => es
  | _ => []

/-- Enters a new node under a name in a directory and tells its number. -/
def addNode (s : Store) (dir : NodeId) (name : Bytes) (n : Node) : Store × NodeId :=
  let id := s.nodes.size
  match s.node? dir with
  | some (.dir es parent linked) =>
    (⟨(s.nodes.setIfInBounds dir (.dir (es ++ [(name, id)]) parent linked)).push n⟩, id)
  | _ => (⟨s.nodes.push n⟩, id)

end Store

end CommandShell
