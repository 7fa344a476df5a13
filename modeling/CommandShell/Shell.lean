import CommandShell.Dispatch
import CommandShell.History
import CommandShell.Logging
import CommandShell.Text.Backspace

/-!
# The shell

The shell reads its settings, starts its log, reads its history, runs the lines of its input one
after the other up to the first that ends it, and writes its history. `World.runShell` does it all
and tells the exit status.
-/

namespace CommandShell

/-- A shell at work. -/
structure Shell where
  world : World
  config : Config
  history : History

/-- The reasons for which a line of the input cannot be run. -/
inductive LineError where
  | notText
  /-- A backspace in it cuts a character apart. -/
  | cutsCharacter
  deriving DecidableEq, Repr

/-- How the work of a shell ends. -/
inductive Ending where
  | exit (code : Int)
  /-- A line of the input cannot be run. -/
  | unreadable (e : LineError)
  deriving DecidableEq, Repr

/-- The terminals on which the shell writes a prompt even if nobody types. -/
def plainTerminals : List String := ["DUMB", "CONS25", "EMACS"]

namespace World

/-- Whether a prompt is written. -/
def showsPrompt (w : World) : Bool :=
  match w.env.text? "TERM" with
  | none => false
  | some t => plainTerminals.contains (String.ofList (t.toList.map Char.toUpper))

/-- Reads the history file, if there is one. -/
def loadHistory (w : World) (path : String) (h : History) : World × History :=
  if w.store.pathExists w.cwd (Utf8.encode path) then
    let failed (e : OsError) : World :=
      w.warn ("cannot load history from " ++ path ++ ": " ++ e.message)
    match w.store.read w.cwd (Utf8.encode path) with
    | .error e => (failed e, h)
    | .ok b =>
      match h.addFile b with
      | (h, .ok ()) => (w, h)
      | (h, .error e) => (failed e, h)
  else (w, h)

/-- Puts a text into a file in place of its content. -/
def overwrite (w : World) (path text : String) : World × Except OsError Unit :=
  match w.store.openFile w.cwd (Utf8.encode path) .truncate with
  | .error e => (w, .error e)
  | .ok (store, id) => { w with store }.append .shell id (Utf8.encode text)

/-- Writes the history file, if a line has been added. -/
def saveHistory (w : World) (path : String) (h : History) : World :=
  if !h.changed then w
  else
    match w.overwrite path h.toText with
    | (w, .ok ()) => w
    | (w, .error e) => w.warn ("cannot save history to " ++ path ++ ": " ++ e.message)

end World

namespace Shell

/-- Starts a shell. A log that cannot be started is complained about. -/
def start (w : World) : Shell :=
  let (w, config) := w.loadConfig
  let w := match w.startLog config with
    | (w, .ok ()) => w
    | (w, .error e) => w.complain ("myshell: " ++ e.message ++ "\n")
  let history : History := { limit := config.historySize }
  match config.historyPath w.env with
  | none => ⟨w, config, history⟩
  | some path =>
    let (w, history) := w.loadHistory path history
    ⟨w, config, history⟩

/-- Writes the prompt where one is shown. -/
def prompt (s : Shell) : Shell :=
  if s.world.showsPrompt then { s with world := s.world.print s.config.prompt } else s

/-- Remembers a line that is not blank. -/
def remember (s : Shell) (line : String) : Shell :=
  if Text.allBlank line then s else { s with history := s.history.add line }

/-- Runs a line, and tells the exit code if it ends the shell. -/
def runLine (s : Shell) (line : String) : Shell × Option Int :=
  let s := s.remember line
  match s.world.runLine line with
  | (w, .ok .continue) => ({ s with world := w }, none)
  | (w, .ok (.exit code)) => ({ s with world := w }, some code)
  | (w, .error e) => ({ s with world := w.complain ("myshell: " ++ e.message ++ "\n") }, none)

/-- The line that some bytes of the input are. Its backspaces have their effect before it is run. -/
def readLine (b : Bytes) : Except LineError String :=
  match Utf8.decode? b with
  | none => .error .notText
  | some t =>
    match Text.eraseBackspaces? t with
    | none => .error .cutsCharacter
    | some line => .ok line

/-- Runs lines up to the first one that ends the shell. -/
def run (s : Shell) : List Bytes → Shell × Ending
  | [] => (s.prompt, .exit 0)
  | b :: rest =>
    match readLine b with
    | .error e => (s.prompt, .unreadable e)
    | .ok line =>
      match s.prompt.runLine line with
      | (s, none) => s.run rest
      | (s, some code) => (s, .exit code)

/-- The status with which the runtime ends a program that has broken down. -/
def brokenStatus : Nat := 101

/-- What is written to standard error on account of a line that cannot be run, and the status of the
program. -/
def failure (w : World) : LineError → String × Nat
  | .notText =>
    let e := OsError.notUtf8.message
    ("Error: " ++ e ++ "\n\nCaused by:\n    " ++ e ++ "\n", 1)
  | .cutsCharacter => (w.report, brokenStatus)

/-- Ends the work of a shell and tells its exit status. The history of a shell whose input could
not be read is lost. -/
def finish (s : Shell) : Ending → World × Nat
  | .exit code =>
    let w := match s.config.historyPath s.world.env with
      | none => s.world
      | some path => s.world.saveHistory path s.history
    (w, (code % 256).toNat)
  | .unreadable e =>
    let (text, status) := failure s.world e
    (s.world.complain text, status)

end Shell

/-- Runs a shell on an input. -/
def World.runShell (w : World) (input : Bytes) : World × Nat :=
  let (s, ending) := (Shell.start w).run (Text.lines input)
  s.finish ending

end CommandShell
