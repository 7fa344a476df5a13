import CommandShell.Builtin
import CommandShell.Script

/-!
# Running programs

A name with a separator is the path of a program. Any other name is looked for in the entries of
the search path, in order; an empty entry is the current directory. What is missing, is a
directory or may not be run is passed over, and any other failure ends the search. A script starts
the program that its first line names. What a program does is for the world to say; it finds an
empty standard input, and what it writes is collected.
-/

namespace CommandShell

/-- The search path when none is set. -/
def defaultSearchPath : Bytes := Utf8.encode "/bin:/usr/bin"

/-- The names of the signals, from number 1 on. -/
def signalNames : List String :=
  ["SIGHUP", "SIGINT", "SIGQUIT", "SIGILL", "SIGTRAP", "SIGABRT", "SIGBUS", "SIGFPE", "SIGKILL",
    "SIGUSR1", "SIGSEGV", "SIGUSR2", "SIGPIPE", "SIGALRM", "SIGTERM", "SIGSTKFLT", "SIGCHLD",
    "SIGCONT", "SIGSTOP", "SIGTSTP", "SIGTTIN", "SIGTTOU", "SIGURG", "SIGXCPU", "SIGXFSZ",
    "SIGVTALRM", "SIGPROF", "SIGWINCH", "SIGIO", "SIGPWR", "SIGSYS"]

/-- The signals that do not end a program that sends them to itself: zero, which is none, and those
that are ignored, from `SIGCHLD` to `SIGWINCH`. -/
def harmlessSignals : List Nat := [0, 17, 18, 23, 28]

/-- How a program ended, in words. A status keeps its low eight bits. -/
def ProgramEnd.describe : ProgramEnd → String
  | .status n => "exit status: " ++ toString (n % 256)
  | .signal n =>
    if harmlessSignals.contains n then "exit status: 0"
    else
      match signalNames[n - 1]? with
      | some name => "signal: " ++ toString n ++ " (" ++ name ++ ")"
      | none => "signal: " ++ toString n

/-- What a search reports that goes on after a failure and meets another one: a refusal stays. -/
def Errno.unlessRefused (earlier later : Errno) : Errno :=
  if earlier = .accessDenied then earlier else later

namespace Store

/-- A program that has been found, with the arguments that come before those it is given. -/
structure Started where
  /-- The path under which it has been found. -/
  path : Bytes
  program : Program
  /-- Put before the arguments by the files that name the program as their interpreter. -/
  before : List Bytes
  deriving DecidableEq, Repr

/-- What comes of a search for a program. -/
def Started.toResult : Except OsError Started → LaunchResult
  | .ok found => .started found.path
  | .error e => .refused e

/-- How many files may be opened one after the other, each as the interpreter of the one before. -/
def maxOpened : Nat := 6

/-- Finds the program that a path starts, if the arguments fit. A program has an interpreter of its
own, which is opened after it. An interpreter without a name is the current directory. -/
def start (s : Store) (cwd : NodeId) (fits : Bool) (budget : Nat) (path : Bytes) :
    Except OsError Started :=
  match s.lookup cwd path with
  | .error e => .error e
  | .ok id =>
    match s.node? id with
    | some (.file c m) =>
      if !m.canRun then .error (.errno .accessDenied)
      else if !fits then .error (.errno .argumentsTooLong)
      else
        match budget, c with
        | 0, _ | 1, .program _ => .error (.errno .tooManyLinks)
        | _, .program p => .ok ⟨path, p, []⟩
        | budget + 1, .data _ =>
          match Script.interpreter? c.bytes with
          | none => .error (.errno .execFormat)
          | some (name, argument) =>
            if name.isEmpty then .error (.errno .accessDenied)
            else
              (start s cwd fits budget name).map fun found =>
                { found with path := path, before := found.before ++ argument ++ [path] }
    | _ => .error (.errno .accessDenied)

/-- Starts the first of several paths that can be started. If there is none, the failure is a
refusal if one was met, and otherwise that of the path tried last. -/
def startFirst (s : Store) (cwd : NodeId) (fits : Bool) (failure : Errno) :
    List Bytes → Except OsError Started
  | [] => .error (.errno failure)
  | path :: rest =>
    match s.start cwd fits maxOpened path with
    | .ok found => .ok found
    | .error (.errno .accessDenied) => s.startFirst cwd fits .accessDenied rest
    | .error (.errno .noEntry) => s.startFirst cwd fits (failure.unlessRefused .noEntry) rest
    | .error (.errno .notDirectory) =>
      s.startFirst cwd fits (failure.unlessRefused .notDirectory) rest
    | .error e => .error e

end Store

namespace World

/-- The entries of the search path. One that is too long for a path counts as an empty entry, or
not at all if it is the last one. -/
def searchEntries (w : World) : List Bytes :=
  let entries := Path.pieces 0x3A ((w.env.get? "PATH").getD defaultSearchPath)
  let fits (dir : Bytes) : Bool := dir.length ≤ Path.maxLength
  entries.dropLast.map (fun dir => if fits dir then dir else [])
    ++ entries.getLast?.toList.filter fits

/-- The paths under which a program is looked for. Of a name that is too long for any directory
only as much is used as makes it too long. -/
def programPaths (w : World) (name : Bytes) : List Bytes :=
  let name := name.take (Path.maxNameLength + 1)
  w.searchEntries.map fun dir => if dir.isEmpty then name else dir ++ Path.separator :: name

/-- Finds the program of a name, if the arguments fit. -/
def findProgram (w : World) (fits : Bool) (name : Bytes) : Except OsError Store.Started :=
  if name.contains 0 then .error .nulInArgument
  else if name.isEmpty then .error (.errno .noEntry)
  else if name.contains Path.separator then w.store.start w.cwd fits Store.maxOpened name
  else w.store.startFirst w.cwd fits .noEntry (w.programPaths name)

/-- The longest argument or variable that a program can be given, in bytes. -/
def maxArgument : Nat := 0x1FFFF

/-- The space that a program has for its arguments and variables, in bytes. -/
def argumentSpace : Nat := 0x200000

/-- The space that a text takes: its bytes, an end mark and its address. -/
def spaceOf (b : Bytes) : Nat := b.length + 9

/-- Whether a program can be given arguments, its name first, beside the variables. -/
def argumentsFit (w : World) (args : List String) : Bool :=
  let texts := args.map Utf8.encode
    ++ w.env.map fun (name, value) => Utf8.encode name ++ 0x3D :: value
  texts.all (·.length ≤ maxArgument) && texts.foldr (fun t n => spaceOf t + n) 0 ≤ argumentSpace

/-- What a program that has been found is called with. It finds nothing to read. -/
def call (w : World) (command : String) (args : List String) (found : Store.Started) : Call where
  command := command
  args := found.before ++ args.map Utf8.encode
  cwd := w.cwd
  env := w.env
  input := []
  turn := w.launches.length

/-- Runs a program that has been found. -/
def runFound (w : World) (command : String) (args : List String) (found : Store.Started) :
    ProgramRun :=
  w.programs found.program (w.call command args found) w.store

/-- Runs a program with arguments, collects its output and leaves the files as it has left them. -/
def runProgram (w : World) (command : String) (args : List String) :
    World × Except CommandError Output :=
  let found :=
    if args.any fun a => a.toList.contains '\x00' then .error .nulInArgument
    else w.findProgram (w.argumentsFit (command :: args)) (Utf8.encode command)
  let asked := w.launch ⟨command, args, [], Store.Started.toResult found⟩
  match found with
  | .error (.errno .noEntry) => (asked, .error (.notFound command))
  | .error e => (asked, .error (.notStarted command e))
  | .ok found =>
    let run := w.runFound command args found
    let ended := { asked with store := run.store }
    (ended.debug .commands (command ++ " exited with " ++ run.ending.describe), .ok run.output)

end World

end CommandShell
