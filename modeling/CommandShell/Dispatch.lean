import CommandShell.External

/-!
# Running a line

A line is read as a command, the command is run as a builtin or as a program, and its output is
routed. A line without arguments does nothing, whatever it redirects, and a line that ends the
shell routes nothing.
-/

namespace CommandShell

/-- What comes of running a command. -/
inductive Outcome where
  | output (o : Output)
  | exit (code : Int)
  deriving DecidableEq, Repr

/-- What the shell does after a line. -/
inductive Control where
  | continue
  | exit (code : Int)
  deriving DecidableEq, Repr

namespace World

/-- Runs a command of a name with arguments. -/
def dispatch (w : World) (command : String) (args : List String) : World × Outcome :=
  match Builtin.ofName? command with
  | some .exit =>
    match Builtin.exitCode args with
    | .ok code => (w, .exit code)
    | .error e => (w, .output (.ofError e))
  | some _ =>
    let (w, result) := Builtin.run (w.debug .commands ("builtin: " ++ command)) command args
    (w, .output (.ofResult result))
  | none =>
    match (w.debug .commands ("external: " ++ command)).runProgram command args with
    | (w, .ok o) => (w, .output o)
    | (w, .error e) => (w, .output (.ofError e))

/-- The text of the record that a line leaves in the log before it is run. -/
def commandRecord (c : Command) : String :=
  "argv: " ++ Words.toLine c.args ++ " redirections: " ++ c.redirections.label

/-- Runs a line. -/
def runLine (w : World) (line : String) : World × Except RouteError Control :=
  let c := Command.ofLine line
  match c.args with
  | [] => (w, .ok .continue)
  | command :: args =>
    match (w.debug .shell (commandRecord c)).dispatch command args with
    | (w, .exit code) => (w, .ok (.exit code))
    | (w, .output o) =>
      let (w, result) := w.route o c.redirections
      (w, result.map fun _ => .continue)

end World

end CommandShell
