import CommandShell.Builtin
import CommandShell.Completion.Context

/-!
# Names to complete with

`World.commandNames` lists the commands that begin with a text: builtin commands and the names in
the directories of the search path, in order and each once. `World.fileNames` lists the files
whose paths begin with what has been typed.
-/

namespace CommandShell

/-- Inserts a name into an increasing list, unless it is there already. -/
def insertName (n : String) : List String → List String
  | [] => [n]
  | m :: rest =>
    if n < m then n :: m :: rest
    else if m < n then m :: insertName n rest
    else m :: rest

/-- The names of a list in increasing order, each once. -/
def sortNames (names : List String) : List String :=
  names.foldr insertName []

theorem mem_insertName {n m : String} {l : List String} :
    m ∈ insertName n l ↔ m = n ∨ m ∈ l := by
  induction l with
  | nil => simp [insertName]
  | cons a rest ih =>
    unfold insertName
    split
    · simp
    · split
      · simp [ih, or_left_comm]
      · rename_i h1 h2
        have : n = a := String.le_antisymm (String.not_lt.1 h2) (String.not_lt.1 h1)
        simp [this]

theorem mem_sortNames {m : String} {l : List String} : m ∈ sortNames l ↔ m ∈ l := by
  induction l with
  | nil => simp [sortNames]
  | cons a rest ih =>
    rw [show sortNames (a :: rest) = insertName a (sortNames rest) from rfl, mem_insertName, ih,
      List.mem_cons]

namespace Completion

/-- What may stand in the place of a text, and how it is shown. -/
structure Candidate where
  display : String
  replacement : String
  deriving DecidableEq, Repr

/-- Splits a path behind its last separator. -/
def splitDir (path : List Char) : List Char × List Char :=
  let name := (path.reverse.takeWhile (· != '/')).reverse
  (path.take (path.length - name.length), name)

end Completion

namespace World

open Completion

/-- The names in a directory that are texts and begin with a text; a directory that cannot be read
has none. -/
def textNamesIn (w : World) (dir : Bytes) (start : String) : List String :=
  match w.store.namesIn w.cwd dir with
  | .error _ => []
  | .ok names => (names.filterMap Utf8.decode?).filter (start.toList.isPrefixOf ·.toList)

/-- The names of commands that begin with a text. -/
def commandNames (w : World) (start : String) : List String :=
  let builtins := (Builtin.all.map Builtin.name).filter (start.toList.isPrefixOf ·.toList)
  sortNames (builtins ++ w.searchDirs.flatMap fun dir => w.textNamesIn (Utf8.encode dir) start)

/-- The directory that the directory part of a path names. A leading `~` stands for the home
directory, and a relative path starts at the current directory while that has a path. -/
def completionDir (w : World) (dir : List Char) : Bytes :=
  let typed := Utf8.encode (String.ofList dir)
  match dir with
  | '~' :: '/' :: rest =>
    match w.env.get? "HOME" with
    | some home => Path.join home (Utf8.encode (String.ofList (rest.dropWhile (· = '/'))))
    | none => typed
  | '/' :: _ => typed
  | _ =>
    match w.currentDir with
    | .ok cwd => Path.join cwd typed
    | .error _ => typed

/-- The candidate that a name in a directory makes; a link that leads nowhere makes none. -/
def fileCandidate (w : World) (x : Context) (dir : Bytes) (typedDir : List Char) (name : String) :
    Option Candidate :=
  match w.store.lookup w.cwd (Path.join dir (Utf8.encode name)) with
  | .error _ => none
  | .ok id =>
    let path := typedDir ++ name.toList ++ if w.store.isDir id then ['/'] else []
    some ⟨name, String.ofList (x.write path)⟩

/-- The files whose paths begin with what has been typed, in the order of their names. -/
def fileNames (w : World) (x : Context) : List Candidate :=
  let (typedDir, start) := splitDir x.path
  let dir := w.completionDir typedDir
  let names := sortNames (w.textNamesIn dir (String.ofList start))
  names.filterMap (w.fileCandidate x dir typedDir)

end World

end CommandShell
