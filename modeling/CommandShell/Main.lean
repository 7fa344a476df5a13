import CommandShell.Shell
import Std.Time.DateTime.Timestamp

/-!
# The program

`main` runs the shell on standard input. The shell works on a copy of its surroundings in memory:
the environment, what lies below the current directory, and the files of the settings and the
history. In the end its consoles are written out, and so are the files below the current directory
and the history file as far as they have changed.
-/

namespace CommandShell.Surroundings

/-- The variables that matter to a shell. -/
def variableNames : List String := ["HOME", "PATH", "TERM", "MYSHELL_CONFIG"]

/-- How deep below the current directory files are copied. -/
def depth : Nat := 8

/-- Puts a file into a store, with the directories that lead to it. -/
def putFile (s : Store) (path : String) (content : ByteArray) : Store :=
  (s.plant Store.root (Path.split (Utf8.encode path)).parts
    (.file (.ofBytes content.data.toList) Mode.plain)).1

/-- Copies a file into a store, if it can be read. -/
def copyFile (s : Store) (path : String) : IO Store := do
  try return putFile s path (← IO.FS.readBinFile path) catch _ => return s

/-- Copies what lies below a directory into a store. -/
def copyTree (s : Store) : (depth : Nat) → (dir : String) → IO Store
  | 0, _ => return s
  | depth + 1, dir => do
    let mut s := (s.makeDirs Store.root (Path.split (Utf8.encode dir)).parts).1
    try
      let real ← IO.FS.realPath dir
      for e in ← real.readDir do
        let path := dir ++ "/" ++ e.fileName
        if ← e.path.isDir then s ← copyTree s depth path
        else s ← copyFile s path
      return s
    catch _ => return s

/-- The time of day, universal time. -/
def timeOfDay : IO TimeOfDay := do
  let seconds := (← Std.Time.Timestamp.now).toSecondsSinceUnixEpoch.val.toNat % 86400
  return ⟨seconds / 3600, seconds / 60 % 60, seconds % 60⟩

/-- The world that the program finds itself in, and the path of its current directory. -/
def read : IO (World × String) := do
  let mut env : Environment := []
  for name in variableNames do
    if let some value ← IO.getEnv name then env := env.put name (some (Utf8.encode value))
  let dir := (← IO.currentDir).toString
  let mut store ← copyTree Store.empty depth dir
  store := (store.plant Store.root [Utf8.encode "dev", Utf8.encode "null"] (.device .null)).1
  if let some path := (Config.path? env).bind Utf8.decode? then store ← copyFile store path
  let cwd := ((store.lookup Store.root (Utf8.encode dir)).toOption).getD Store.root
  let w : World := { store, cwd, env, now := ← timeOfDay }
  match w.loadConfig.2.historyPath env with
  | none => return (w, dir)
  | some path => return ({ w with store := ← copyFile w.store path }, dir)

/-- Writes the files that have changed below a directory. -/
def writeChanges (dir : String) (before after : World) : IO Unit := do
  let shots (w : World) : List Store.Sight :=
    match w.store.lookup Store.root (Utf8.encode dir) with
    | .ok id => (w.store.photograph id).getD []
    | .error _ => []
  for c in Store.changes (shots before) (shots after) do
    if let some ⟨path, _, .file content⟩ := c.after then
      IO.FS.writeBinFile (dir ++ "/" ++ Utf8.decodeLossy path) ⟨content.bytes.toArray⟩

/-- Writes the history file, if it has changed. -/
def writeHistory (before after : World) : IO Unit := do
  if let some path := before.loadConfig.2.historyPath before.env then
    let content (w : World) : Option Bytes :=
      (w.store.read before.cwd (Utf8.encode path)).toOption
    if let some b := content after then
      if content before != some b then IO.FS.writeBinFile path ⟨b.toArray⟩

end CommandShell.Surroundings

open CommandShell in
/-- Runs the shell on standard input and ends with its exit status. -/
def main : IO UInt32 := do
  let (w, dir) ← Surroundings.read
  let input ← (← IO.getStdin).readBinToEnd
  let (after, status) := w.runShell input.data.toList
  (← IO.getStdout).write ⟨after.stdout.written.toArray⟩
  (← IO.getStderr).write ⟨after.stderr.written.toArray⟩
  Surroundings.writeChanges dir w after
  Surroundings.writeHistory w after
  return status.toUInt32
