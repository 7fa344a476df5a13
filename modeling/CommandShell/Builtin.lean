import CommandShell.Number.Signed
import CommandShell.Routing

/-!
# Builtin commands

`echo` writes its arguments, `pwd` the current directory and `type` what a name would run; `cd`
goes to another directory and `exit` ends the shell. `Builtin.run` runs all of them but `exit`,
whose argument `Builtin.exitCode` reads.
-/

namespace CommandShell

/-- The reasons for which a command fails. -/
inductive CommandError where
  | notFound (command : String)
  | noSuchDirectory (dir : String)
  | homeNotSet
  | numericArgument (argument : String)
  | noCurrentDirectory (cause : OsError)
  | notStarted (command : String) (cause : OsError)
  deriving DecidableEq, Repr

/-- The text of an error. -/
def CommandError.message : CommandError → String
  | .notFound c => c ++ ": command not found"
  | .noSuchDirectory d => "cd: " ++ d ++ ": No such file or directory"
  | .homeNotSet => "cd: HOME not set"
  | .numericArgument a => "exit: " ++ a ++ ": numeric argument required"
  | .noCurrentDirectory e => "Error getting current directory: " ++ e.message
  | .notStarted c e => c ++ ": " ++ e.message

namespace Output

/-- A text on standard output. -/
def ofText (s : String) : Output :=
  { stdout := Utf8.encode s }

/-- The text of an error on standard error. -/
def ofError (e : CommandError) : Output :=
  { stderr := Utf8.encode (e.message ++ "\n") }

/-- The text of a command that succeeded, or its error. -/
def ofResult : Except CommandError String → Output
  | .ok s => ofText s
  | .error e => ofError e

end Output

/-- The builtin commands. -/
inductive Builtin where
  | echo
  | exit
  | type
  | pwd
  | cd
  deriving DecidableEq, Repr

namespace Builtin

/-- All builtin commands. -/
def all : List Builtin := [.echo, .exit, .type, .pwd, .cd]

/-- The name of a builtin command. -/
def name : Builtin → String
  | .echo => "echo"
  | .exit => "exit"
  | .type => "type"
  | .pwd => "pwd"
  | .cd => "cd"

/-- The builtin command with a name. -/
def ofName? (s : String) : Option Builtin :=
  all.find? (·.name = s)

end Builtin

namespace World

/-- The directories of the search path, as far as the search path is a text. -/
def searchDirs (w : World) : List String :=
  match w.env.text? "PATH" with
  | none => []
  | some p => ((p.toList.splitOn ':').filter (fun d => !d.isEmpty)).map String.ofList

/-- The first path that a directory of the search path gives a command and that can be run. -/
def fullPath (w : World) (command : String) : Option String :=
  (w.searchDirs.map fun dir => dir ++ "/" ++ command).find? fun path =>
    w.store.isRunnable w.cwd (Utf8.encode path)

end World

namespace Builtin

/-- The exit code that the arguments of `exit` ask for. -/
def exitCode : List String → Except CommandError Int
  | [] => .ok 0
  | a :: _ =>
    match Number.signed32? a with
    | some n => .ok n
    | none => .error (.numericArgument a)

/-- The directory that the arguments of `cd` name. A leading `~` stands for the home directory. -/
def cdTarget (env : Environment) : List String → Option String
  | [] | "~" :: _ => env.text? "HOME"
  | a :: _ =>
    match a.toList with
    | '~' :: '/' :: rest => (env.text? "HOME").map (· ++ "/" ++ String.ofList rest)
    | _ => some a

/-- Goes to the directory that the arguments of `cd` name. -/
def runCd (w : World) (args : List String) : World × Except CommandError String :=
  match cdTarget w.env args with
  | none => (w, .error .homeNotSet)
  | some dir =>
    match w.changeDir (Utf8.encode dir) with
    | (w, .ok ()) => (w, .ok "")
    | (w, .error _) => (w, .error (.noSuchDirectory dir))

/-- What `type` says about a name. -/
def describe (w : World) : List String → String
  | [] => "type: missing argument\n"
  | a :: _ =>
    if (ofName? a).isSome then a ++ " is a shell builtin\n"
    else
      match w.fullPath a with
      | some path => a ++ " is " ++ path ++ "\n"
      | none => a ++ ": not found\n"

/-- Runs the builtin command of a name with the arguments after the name. The name `exit` is not
known here, as ending is not for a command to do. -/
def run (w : World) (name : String) (args : List String) : World × Except CommandError String :=
  match ofName? name with
  | some .pwd =>
    match w.currentDir with
    | .ok dir => (w, .ok (Utf8.decodeLossy dir ++ "\n"))
    | .error e => (w, .error (.noCurrentDirectory e))
  | some .cd => runCd w args
  | some .type => (w, .ok (describe w args))
  | some .echo => (w, .ok (" ".intercalate args ++ "\n"))
  | some .exit | none => (w, .error (.notFound name))

end Builtin

end CommandShell
