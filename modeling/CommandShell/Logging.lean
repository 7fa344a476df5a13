import CommandShell.Config

/-!
# Starting the log

Records are written to a file if the settings name one. `World.startLog` opens the file and
installs the logger; a logger stays installed, so a second one is refused.
-/

namespace CommandShell

/-- The reasons for which the log is not started. -/
inductive LogError where
  | unknownLevel (name : String)
  | openFailed (path : String) (cause : OsError)
  /-- There is a logger already. -/
  | installed
  deriving DecidableEq, Repr

/-- The text of an error. -/
def LogError.message : LogError → String
  | .unknownLevel name => "invalid log level " ++ Text.display name
  | .openFailed path e => "cannot open log file " ++ path ++ ": " ++ e.message
  | .installed =>
    "attempted to set a logger after the logging system was already initialized"

namespace World

/-- Installs a logger, unless there is one. The level that is asked for limits that one, too. -/
def installLogger (w : World) (level : LogLevel) (file : NodeId) :
    World × Except LogError Unit :=
  match w.logger with
  | none => ({ w with logger := some ⟨level, level, file⟩ }, .ok ())
  | some l => ({ w with logger := some { l with ceiling := level } }, .error .installed)

/-- Starts the log that the settings ask for. -/
def startLog (w : World) (c : Config) : World × Except LogError Unit :=
  match c.logPath w.env with
  | none => (w, .ok ())
  | some path =>
    match LogLevel.ofName? c.logLevel with
    | none => (w, .error (.unknownLevel c.logLevel))
    | some level =>
      match w.store.openFile w.cwd (Utf8.encode path) .append with
      | .error e => (w, .error (.openFailed path e))
      | .ok (store, file) => { w with store }.installLogger level file

/-- Writes a record of level `warn`. -/
def warn (w : World) (text : String) : World :=
  w.log ⟨.warn, .shell, text⟩

end World

end CommandShell
