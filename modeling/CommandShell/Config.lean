import CommandShell.Text.Displayed
import CommandShell.Toml.Document
import CommandShell.World

/-!
# Settings

The settings of a shell are read from a TOML document that has no other keys. `Config.ofEntries`
reads them in the order of the document, and the first entry that does not fit is the error;
`World.loadConfig` reads the file that the environment names and falls back to the defaults.
-/

namespace CommandShell

/-- The settings of a shell. -/
structure Config where
  prompt : String := "$ "
  historyFile : Option String := none
  /-- The greatest number of lines that the history holds. -/
  historySize : Nat := 1000
  logFile : Option String := none
  logLevel : String := "warn"
  deriving DecidableEq, Repr

/-- The names of what a shell can be told. -/
inductive Setting where
  | prompt
  | historyFile
  | historySize
  | logFile
  | logLevel
  deriving DecidableEq, Repr

namespace Setting

/-- All settings. -/
def all : List Setting := [.prompt, .historyFile, .historySize, .logFile, .logLevel]

/-- The key of a setting. -/
def key : Setting → String
  | .prompt => "prompt"
  | .historyFile => "history_file"
  | .historySize => "history_size"
  | .logFile => "log_file"
  | .logLevel => "log_level"

/-- The setting with a key. -/
def ofKey? (k : String) : Option Setting :=
  all.find? (·.key = k)

end Setting

/-- What a setting may be. -/
inductive SettingKind where
  | text
  | count
  deriving DecidableEq, Repr

/-- A kind in words. -/
def SettingKind.describe : SettingKind → String
  | .text => "a string"
  | .count => "usize"

/-- A value in words. -/
def Toml.Value.describe : Toml.Value → String
  | .string s => "string " ++ Text.display s
  | .integer n => "integer `" ++ toString n ++ "`"
  | .float x => "floating point `" ++ x.text ++ "`"
  | .boolean b => "boolean `" ++ (if b then "true" else "false") ++ "`"
  | .array _ | .tables _ => "sequence"
  | .datetime _ | .table .. => "map"

/-- The reasons for which a text gives no settings. -/
inductive ConfigError where
  /-- The text is no document. -/
  | malformed
  | unknownKey (key : String)
  | wrongKind (found : Toml.Value) (wanted : SettingKind)
  /-- A count is less than zero. -/
  | negativeCount (n : Int)

/-- The text of an error. -/
def ConfigError.message : ConfigError → String
  | .malformed => "invalid document"
  | .unknownKey k =>
    "unknown field `" ++ k ++ "`, expected one of "
      ++ ", ".intercalate (Setting.all.map fun s => "`" ++ s.key ++ "`")
  | .wrongKind found wanted =>
    "invalid type: " ++ found.describe ++ ", expected " ++ wanted.describe
  | .negativeCount n =>
    "invalid value: integer `" ++ toString n ++ "`, expected " ++ SettingKind.count.describe

namespace Config

/-- The text that a value is. -/
def text : Toml.Value → Except ConfigError String
  | .string s => .ok s
  | v => .error (.wrongKind v .text)

/-- The count that a value is. -/
def count : Toml.Value → Except ConfigError Nat
  | .integer n => if 0 ≤ n then .ok n.toNat else .error (.negativeCount n)
  | v => .error (.wrongKind v .count)

/-- Gives a setting a value. -/
def set (c : Config) (s : Setting) (v : Toml.Value) : Except ConfigError Config :=
  match s with
  | .prompt => (text v).map fun t => { c with prompt := t }
  | .historyFile => (text v).map fun t => { c with historyFile := some t }
  | .historySize => (count v).map fun n => { c with historySize := n }
  | .logFile => (text v).map fun t => { c with logFile := some t }
  | .logLevel => (text v).map fun t => { c with logLevel := t }

/-- Takes an entry of a document into the settings. -/
def setEntry (c : Config) (e : String × Toml.Value) : Except ConfigError Config :=
  match Setting.ofKey? e.1 with
  | some s => c.set s e.2
  | none => .error (.unknownKey e.1)

/-- The settings that the entries of a document make, on top of the defaults. -/
def ofEntries (es : Toml.Table) : Except ConfigError Config :=
  es.foldlM setEntry {}

/-- The settings that a text gives. -/
def ofText (text : String) : Except ConfigError Config :=
  match Toml.Document.ofText? text with
  | none => .error .malformed
  | some es => ofEntries es

/-! ## Paths -/

/-- A path of the settings. A leading `~` stands for the home directory, if that is a text. -/
def expandHome (env : Environment) (path : String) : String :=
  match path.toList with
  | '~' :: rest =>
    if rest.isEmpty || rest.head? = some '/' then
      match env.text? "HOME" with
      | some home => if home.isEmpty then path else home ++ String.ofList rest
      | none => path
    else path
  | _ => path

/-- The path of the history file. -/
def historyPath (c : Config) (env : Environment) : Option String :=
  c.historyFile.map (expandHome env)

/-- The path of the log file. -/
def logPath (c : Config) (env : Environment) : Option String :=
  c.logFile.map (expandHome env)

/-- The path of the file that holds the settings: the one that the environment names, or else one
in the home directory. -/
def path? (env : Environment) : Option Bytes :=
  match env.get? "MYSHELL_CONFIG" with
  | some p => some p
  | none => (env.get? "HOME").map fun home =>
    Path.join home (Utf8.encode ".config/myshell/config.toml")

end Config

namespace World

/-- Reads the settings. Without a file that can be read they are the defaults; a file with an error
is complained about and ignored. -/
def loadConfig (w : World) : World × Config :=
  match Config.path? w.env with
  | none => (w, {})
  | some path =>
    match w.store.readText w.cwd path with
    | .error _ => (w, {})
    | .ok text =>
      match Config.ofText text with
      | .ok c => (w, c)
      | .error e =>
        (w.complain ("myshell: config parse error in " ++ Utf8.decodeLossy path
          ++ ": TOML parse error: " ++ e.message ++ "\n"), {})

end World

end CommandShell
