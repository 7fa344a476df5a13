import CommandShell.Words.Quoted

/-!
# Commands

A command is what remains of the words of a line once the redirections are taken out. An operator
is a word of its own (`>`, `1>`, `>>`, `1>>`, `2>`, `2>>`) and takes the word after it as its
path, whatever that word is. A later operator replaces an earlier one for the same stream, and an
operator with no word after it is dropped.

`Command.toWords` writes a command in a standard order: arguments, standard output, standard error.
-/

namespace CommandShell

/-- The two streams that a command writes to. -/
inductive Stream where
  | stdout
  | stderr
  deriving DecidableEq, Repr

/-- What becomes of the content that the target of a redirection has. -/
inductive WriteMode where
  | truncate
  | append
  deriving DecidableEq, Repr

/-- What a redirection operator stands for. -/
structure Operator where
  stream : Stream
  mode : WriteMode
  deriving DecidableEq, Repr

/-- The operators by their spelling. -/
def Operator.table : List (String × Operator) :=
  [(">", ⟨.stdout, .truncate⟩), ("1>", ⟨.stdout, .truncate⟩),
    (">>", ⟨.stdout, .append⟩), ("1>>", ⟨.stdout, .append⟩),
    ("2>", ⟨.stderr, .truncate⟩), ("2>>", ⟨.stderr, .append⟩)]

/-- The operator that a word spells, if it is one. -/
def Operator.ofWord? (w : String) : Option Operator :=
  Operator.table.lookup w

/-- The target of a redirected stream. -/
structure Redirection where
  path : String
  mode : WriteMode
  deriving DecidableEq, Repr

/-- The targets of both streams; a stream without a target goes to the console. -/
structure Redirections where
  stdout : Option Redirection := none
  stderr : Option Redirection := none
  deriving DecidableEq, Repr

namespace Redirections

/-- The target of a stream. -/
def get (r : Redirections) : Stream → Option Redirection
  | .stdout => r.stdout
  | .stderr => r.stderr

/-- Redirects a stream, in place of an earlier redirection of it. -/
def set (r : Redirections) (s : Stream) (t : Redirection) : Redirections :=
  match s with
  | .stdout => { r with stdout := some t }
  | .stderr => { r with stderr := some t }

end Redirections

/-- A command: its arguments, the name first, and where its output goes. -/
structure Command where
  args : List String := []
  redirections : Redirections := {}
  deriving DecidableEq, Repr

namespace Command

/-- Reads words on top of the redirections that are already known. -/
def readWords (r : Redirections) : List String → Command
  | [] => ⟨[], r⟩
  | [w] =>
    match Operator.ofWord? w with
    | none => ⟨[w], r⟩
    | some _ => ⟨[], r⟩
  | w :: path :: rest =>
    match Operator.ofWord? w with
    | none =>
      let c := readWords r (path :: rest)
      { c with args := w :: c.args }
    | some op => readWords (r.set op.stream ⟨path, op.mode⟩) rest

/-- The command that a list of words spells. -/
def ofWords (ws : List String) : Command :=
  readWords {} ws

/-- The command that a line spells. -/
def ofLine (line : String) : Command :=
  ofWords (Words.ofLine line)

end Command

/-- The shortest spelling of the operator for a stream and a mode. -/
def Operator.toWord : Operator → String
  | ⟨.stdout, .truncate⟩ => ">"
  | ⟨.stdout, .append⟩ => ">>"
  | ⟨.stderr, .truncate⟩ => "2>"
  | ⟨.stderr, .append⟩ => "2>>"

/-- The words that redirect a stream to a target, if there is one. -/
def Redirection.toWords (s : Stream) : Option Redirection → List String
  | none => []
  | some t => [Operator.toWord ⟨s, t.mode⟩, t.path]

/-- The words of a command: its arguments, then its redirections. -/
def Command.toWords (c : Command) : List String :=
  c.args ++ Redirection.toWords .stdout c.redirections.stdout
    ++ Redirection.toWords .stderr c.redirections.stderr

end CommandShell
