import CommandShell.Command
import CommandShell.Log
import CommandShell.Process

/-!
# The world of a shell

The world is all that a line can see or change: the file store, the current directory, the
environment, the two consoles, the logger, the time and the programs that the system is asked to
run. Every action of the shell is a function that takes a world to a result and the world after it.

The world says what the shell cannot know beforehand, too: what a program does (`World.programs`),
how much of a payload a file has room for (`World.room`) and what is reported when the shell breaks
down (`World.report`). Nothing that the shell does changes these.
-/

namespace CommandShell

/-- A console: what it has been given so far, and where it fails. -/
structure Console where
  /-- What it has been given, the latest piece first. -/
  pieces : List Bytes := []
  /-- How many more bytes it takes, if there is a limit. -/
  room : Option Nat := none
  /-- Whether it fails when it is flushed. -/
  flushFails : Bool := false
  deriving DecidableEq, Repr

namespace Console

/-- All that the console has been given. -/
def written (c : Console) : Bytes :=
  c.pieces.reverse.flatten

/-- The part of some bytes that the console takes. -/
def taken (c : Console) (b : Bytes) : Bytes :=
  match c.room with
  | some n => b.take n
  | none => b

/-- Whether the console takes all of some bytes. -/
def takesAll (c : Console) (b : Bytes) : Bool :=
  match c.room with
  | some n => b.length ≤ n
  | none => true

/-- Writes bytes and flushes. A console with too little room takes what fits. -/
def put (c : Console) (b : Bytes) : Console × Except OsError Unit :=
  let c' := { c with pieces := c.taken b :: c.pieces, room := c.room.map (· - b.length) }
  if !c.takesAll b then (c', .error .consoleFull)
  else if c.flushFails then (c', .error .flushFailed)
  else (c', .ok ())

theorem written_put (c : Console) (b : Bytes) : (c.put b).1.written = c.written ++ c.taken b := by
  unfold put
  split
  · simp [written]
  · split <;> simp [written]

end Console

/-- Where records go. -/
structure Logger where
  /-- The level that the logger was installed with. -/
  level : LogLevel
  /-- The level that was asked for last. -/
  ceiling : LogLevel
  /-- The open log file. -/
  file : NodeId
  deriving DecidableEq, Repr

/-- What comes of a request to run a program. -/
inductive LaunchResult where
  /-- The file at a path is started. -/
  | started (path : Bytes)
  | refused (cause : OsError)
  deriving DecidableEq, Repr

/-- A request to run a program. -/
structure Launch where
  /-- The name or the path of the program. -/
  command : String
  /-- The arguments after the name. -/
  args : List String
  /-- What the program finds to read. -/
  input : Bytes
  result : LaunchResult
  deriving DecidableEq, Repr

/-- Who writes to a file. -/
inductive Writer where
  /-- A command, on one of its streams. -/
  | command (s : Stream)
  | shell
  deriving DecidableEq, Repr

/-- All that a shell can see or change. -/
structure World where
  store : Store := .empty
  cwd : NodeId := Store.root
  env : Environment := []
  stdout : Console := {}
  stderr : Console := {}
  logger : Option Logger := none
  now : TimeOfDay := ⟨0, 0, 0⟩
  /-- All that the system has been asked to run, the latest first. -/
  launches : List Launch := []
  /-- What programs do. -/
  programs : Behaviour := Program.run
  /-- How many bytes of a payload there is room for in what has a number. There may be room for what
  a command writes on one stream, and none left for the other. -/
  room : Writer → NodeId → Bytes → Nat := fun _ _ b => b.length
  /-- What is reported on standard error when the shell breaks down. -/
  report : String := ""

namespace World

/-- How many bytes of a payload an open node takes. A full device takes none. -/
def capacity (w : World) (k : Writer) (id : NodeId) (b : Bytes) : Nat :=
  match w.store.node? id with
  | some (.device .full) => 0
  | _ => w.room k id b

/-- Writes a payload to an open node, from its beginning on and as far as there is room. That the
node has not taken all of it is an error. -/
def append (w : World) (k : Writer) (id : NodeId) (b : Bytes) : World × Except OsError Unit :=
  ({ w with store := w.store.append id (b.take (w.capacity k id b)) },
    if b.length ≤ w.capacity k id b then .ok () else .error (.errno .noSpace))

/-- Writes a record to the log, if there is one and the record is not too detailed for it. What
there is no room for is lost. -/
def log (w : World) (r : LogRecord) : World :=
  match w.logger with
  | none => w
  | some l =>
    if l.level.allows r.level && l.ceiling.allows r.level then
      (w.append .shell l.file (Utf8.encode (r.line w.now))).1
    else w

/-- Writes a record of level `debug`. -/
def debug (w : World) (source : LogSource) (text : String) : World :=
  w.log ⟨.debug, source, text⟩

/-- Writes a text to the console for errors, whether or not it takes it. A shell whose complaint is
not taken breaks down, which is left out here: all that a run does is told for a console for errors
that takes everything. -/
def complain (w : World) (text : String) : World :=
  { w with stderr := (w.stderr.put (Utf8.encode text)).1 }

/-- Writes a text to the console for output, whether or not it takes it. -/
def print (w : World) (text : String) : World :=
  { w with stdout := (w.stdout.put (Utf8.encode text)).1 }

/-- Takes down a request to run a program. -/
def launch (w : World) (l : Launch) : World :=
  { w with launches := l :: w.launches }

/-- The path of the current directory, unless it has been removed. -/
def currentDir (w : World) : Except OsError Bytes :=
  w.store.pathOf w.cwd

/-- Goes to the directory that a path leads to. -/
def changeDir (w : World) (path : Bytes) : World × Except OsError Unit :=
  match w.store.lookupDir w.cwd path with
  | .error e => (w, .error e)
  | .ok id => ({ w with cwd := id }, .ok ())

end World

end CommandShell
