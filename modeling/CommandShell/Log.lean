import CommandShell.Text.Utf8

/-!
# Log records

A record has a level, the part of the shell it comes from, and a text. `LogRecord.line` writes it
as a line that starts with the time of day; the source is shown from level `debug` on. A level lets
through the records that are no more detailed than itself.
-/

namespace CommandShell

/-- How much is logged, from nothing to everything. -/
inductive LogLevel where
  | off
  | error
  | warn
  | info
  | debug
  | trace
  deriving DecidableEq, Repr

namespace LogLevel

/-- The levels in the order of their detail. -/
def all : List LogLevel := [.off, .error, .warn, .info, .debug, .trace]

/-- How detailed a level is. -/
def detail : LogLevel → Nat
  | .off => 0
  | .error => 1
  | .warn => 2
  | .info => 3
  | .debug => 4
  | .trace => 5

/-- The name of a level. -/
def name : LogLevel → String
  | .off => "OFF"
  | .error => "ERROR"
  | .warn => "WARN"
  | .info => "INFO"
  | .debug => "DEBUG"
  | .trace => "TRACE"

/-- The level with a name, in which small ASCII letters count as capitals. -/
def ofName? (s : String) : Option LogLevel :=
  all.find? fun l => l.name.toList = s.toList.map Char.toUpper

/-- Whether a level lets through the records of another one. -/
def allows (limit level : LogLevel) : Bool :=
  level.detail ≤ limit.detail

end LogLevel

/-- The part of the shell that a record comes from. -/
inductive LogSource where
  | shell
  | commands
  | redirection
  deriving DecidableEq, Repr

/-- The source as it is written in a record. -/
def LogSource.path : LogSource → String
  | .shell => "myshell"
  | .commands => "myshell::commands"
  | .redirection => "myshell::redirection"

/-- A time of day, to the second. -/
structure TimeOfDay where
  hour : Nat
  minute : Nat
  second : Nat
  deriving DecidableEq, Repr

namespace TimeOfDay

/-- A number below one hundred with two digits. -/
def twoDigits (n : Nat) : String :=
  (if n < 10 then "0" else "") ++ toString n

/-- The time as `HH:MM:SS`. -/
def format (t : TimeOfDay) : String :=
  twoDigits t.hour ++ ":" ++ twoDigits t.minute ++ ":" ++ twoDigits t.second

end TimeOfDay

/-- A record of what the shell does. -/
structure LogRecord where
  level : LogLevel
  source : LogSource
  text : String
  deriving DecidableEq, Repr

/-- The line that a record makes at a time. -/
def LogRecord.line (t : TimeOfDay) (r : LogRecord) : String :=
  t.format ++ " [" ++ r.level.name ++ "] "
    ++ (if LogLevel.debug.detail ≤ r.level.detail then r.source.path ++ ": " else "")
    ++ r.text ++ "\n"

end CommandShell
