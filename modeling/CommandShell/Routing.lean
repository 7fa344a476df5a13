import CommandShell.Text.Displayed
import CommandShell.World

/-!
# Routing output

The output of a command goes to the consoles or to the files that the redirections name. A target
is opened even if there is nothing to write to it, so a redirection always creates or empties its
file; a console is left alone if there is nothing to write.

Standard output is dealt with before standard error, and the first failure ends the routing. What
has been done by then stays: a file that has no room for all of a payload keeps the first part. When
both streams name the same path, the file is opened once, it keeps its content only if both
operators append, and standard output is written first.
-/

namespace CommandShell

/-- The reasons for which output cannot be delivered. -/
inductive RouteError where
  | openFailed (path : String) (cause : OsError)
  | writeFailed (path : String) (cause : OsError)
  | consoleFailed (cause : OsError)
  deriving DecidableEq, Repr

/-- The text of an error. -/
def RouteError.message : RouteError → String
  | .openFailed path e => path ++ ": " ++ e.message
  | .writeFailed path e => path ++ ": write failed: " ++ e.message
  | .consoleFailed e => "console write failed: " ++ e.message

/-! ## Redirections in the log -/

/-- The name of a mode in the log. -/
def WriteMode.label : WriteMode → String
  | .truncate => "Truncate"
  | .append => "Append"

/-- A target in the log. -/
def Redirection.label : Option Redirection → String
  | none => "None"
  | some t =>
    "Some(Redirection \x7b path: " ++ Text.display t.path ++ ", mode: " ++ t.mode.label ++ " \x7d)"

/-- Redirections in the log. -/
def Redirections.label (r : Redirections) : String :=
  "RedirectionSpec \x7b stdout: " ++ Redirection.label r.stdout
    ++ ", stderr: " ++ Redirection.label r.stderr ++ " \x7d"

/-! ## Delivery -/

/-- Bytes that were written to a stream. -/
structure Payload where
  stream : Stream
  bytes : Bytes
  deriving DecidableEq, Repr

def Payload.writer (p : Payload) : Writer :=
  .command p.stream

/-- The payloads of an output, that of standard output first. -/
def Output.payloads (o : Output) : List Payload :=
  [⟨.stdout, o.stdout⟩, ⟨.stderr, o.stderr⟩]

namespace World

/-- Writes the payloads that are not empty to an open node, in order, up to the first failure. -/
def writeAll (w : World) (id : NodeId) : List Payload → World × Except OsError Unit
  | [] => (w, .ok ())
  | p :: rest =>
    if p.bytes.isEmpty then w.writeAll id rest
    else
      match w.append p.writer id p.bytes with
      | (w, .error e) => (w, .error e)
      | (w, .ok ()) => w.writeAll id rest

/-- Opens a target and writes payloads to it. -/
def writeFile (w : World) (t : Redirection) (payloads : List Payload) :
    World × Except RouteError Unit :=
  let w := w.debug .redirection ("opening " ++ t.path ++ " (" ++ t.mode.label ++ ")")
  match w.store.openFile w.cwd (Utf8.encode t.path) t.mode with
  | .error e => (w, .error (.openFailed t.path e))
  | .ok (s, id) =>
    let (w, result) := { w with store := s }.writeAll id payloads
    (w, result.mapError (.writeFailed t.path))

/-- The console of a stream. -/
def console (w : World) : Stream → Console
  | .stdout => w.stdout
  | .stderr => w.stderr

/-- Replaces the console of a stream. -/
def setConsole (w : World) (s : Stream) (c : Console) : World :=
  match s with
  | .stdout => { w with stdout := c }
  | .stderr => { w with stderr := c }

/-- Delivers what was written to one stream. -/
def deliver (w : World) (s : Stream) (payload : Bytes) :
    Option Redirection → World × Except RouteError Unit
  | some t => w.writeFile t [⟨s, payload⟩]
  | none =>
    if payload.isEmpty then (w, .ok ())
    else
      let (c, result) := (w.console s).put payload
      (w.setConsole s c, result.mapError .consoleFailed)

/-- The mode in which a target that both streams share is opened. -/
def sharedMode : WriteMode → WriteMode → WriteMode
  | .append, .append => .append
  | _, _ => .truncate

/-- Delivers the output of a command. -/
def route (w : World) (o : Output) (r : Redirections) : World × Except RouteError Unit :=
  let separate :=
    match w.deliver .stdout o.stdout r.stdout with
    | (w, .error e) => (w, .error e)
    | (w, .ok ()) => w.deliver .stderr o.stderr r.stderr
  match r.stdout, r.stderr with
  | some out, some err =>
    if out.path = err.path then
      w.writeFile ⟨out.path, sharedMode out.mode err.mode⟩ o.payloads
    else separate
  | _, _ => separate

end World

end CommandShell
