import CommandShell.Command
import CommandShell.Store.Lookup

/-!
# Reading and writing files

`Store.openFile` opens a path for writing: it creates a missing file, and it empties an existing
one if the mode says so. `Store.append` adds bytes at the end of an open file, in a time that does
not depend on what the file holds (`Content.bytes_append`). How many bytes a file has room for is
not for the store to say; `World.append` writes no more than that.
-/

namespace CommandShell

namespace Content

/-- The bytes of a file. -/
def bytes : Content → Bytes
  | .data reversed => reversed.reverse
  | .program p => p.code

theorem bytes_ofBytes (b : Bytes) : (ofBytes b).bytes = b :=
  List.reverse_reverse b

/-- The content with bytes added at its end. A program that is added to is a file of bytes from then
on. -/
def append : Content → Bytes → Content
  | .data reversed, more => .data (more.reverse ++ reversed)
  | .program p, more => if more.isEmpty then .program p else ofBytes (p.code ++ more)

theorem bytes_append (c : Content) (more : Bytes) : (c.append more).bytes = c.bytes ++ more := by
  cases c with
  | data reversed => simp [append, bytes]
  | program p =>
    by_cases h : more = []
    · simp [append, h]
    · have hwrite : more.isEmpty = false := by simpa using h
      rw [append, hwrite]
      exact bytes_ofBytes (p.code ++ more)

/-- What is left of a content when its file is opened for writing. -/
def opened : WriteMode → Content → Content
  | .truncate, _ => ofBytes []
  | .append, c => c

end Content

namespace Store

/-- Opens a path for writing, which `root` may do whatever the permission bits are, and tells the
node to write to. -/
def openFile (s : Store) (cwd : NodeId) (path : Bytes) (mode : WriteMode) :
    Except OsError (Store × NodeId) :=
  match s.locate true cwd path with
  | .error e => .error e
  | .ok (.found id, _) =>
    match s.node? id with
    | some (.file c m) => .ok (s.setNode id (.file (c.opened mode) m), id)
    | some (.device _) => .ok (s, id)
    | some (.dir ..) => .error (.errno .isDirectory)
    | _ => .error (.errno .noEntry)
  | .ok (.vacant dir name, _) =>
    match s.node? dir with
    | some (.dir _ _ true) => .ok (s.addNode dir name (.file (.ofBytes []) Mode.plain))
    | _ => .error (.errno .noEntry)

/-- Adds bytes at the end of a file. What is no file keeps nothing of what is written to it. -/
def append (s : Store) (id : NodeId) (b : Bytes) : Store :=
  match s.node? id with
  | some (.file c m) => s.setNode id (.file (c.append b) m)
  | _ => s

/-- The bytes that a path holds. -/
def read (s : Store) (cwd : NodeId) (path : Bytes) : Except OsError Bytes :=
  match s.lookup cwd path with
  | .error e => .error e
  | .ok id =>
    match s.node? id with
    | some (.file c _) => .ok c.bytes
    | some (.dir ..) => .error (.errno .isDirectory)
    | _ => .ok []

/-- The text that a path holds. -/
def readText (s : Store) (cwd : NodeId) (path : Bytes) : Except OsError String :=
  match s.read cwd path with
  | .error e => .error e
  | .ok b =>
    match Utf8.decode? b with
    | some t => .ok t
    | none => .error .notUtf8

/-- Whether a path leads to a file that someone may run. -/
def isRunnable (s : Store) (cwd : NodeId) (path : Bytes) : Bool :=
  match s.lookup cwd path with
  | .error _ => false
  | .ok id =>
    match s.node? id with
    | some (.file _ m) => m.canRun
    | _ => false

end Store

end CommandShell
