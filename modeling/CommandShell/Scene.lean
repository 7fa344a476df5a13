import CommandShell.World

/-!
# Scenes

A scene is a world whose shell works below one directory: it stands in `w`, its home is `home` and
its search path is `bin`. Around it there is only what a shell expects of any system: two devices
and a program that does nothing. `Scene.apply` arranges files in it, and `Scene.photograph`
shows what lies below the directory.
-/

namespace CommandShell

/-- What is done at a path of a scene. -/
inductive Arrangement where
  | dir
  | file (content : Bytes)
  | link (target : Bytes)
  | program (p : Program)
  | remove
  /-- Leaves things as they are. -/
  | keep
  deriving DecidableEq, Repr

/-- A path below the directory of a scene and what is done there. -/
structure SceneEntry where
  path : Bytes
  arrangement : Arrangement
  /-- The permission bits that are set afterwards. -/
  mode : Option Mode := none
  deriving DecidableEq, Repr

/-- A world and the directory in which it is looked at. -/
structure Scene where
  world : World
  root : NodeId

namespace Store

/-- Does at a relative path what an arrangement says, and tells the node that is there then. -/
def arrange (s : Store) (dir : NodeId) (path : Bytes) : Arrangement → Store × Option NodeId
  | .dir => ((s.makeDirs dir (Path.split path).parts).1, none)
  | .file b =>
    let (s, id) := s.plant dir (Path.split path).parts (.file (.ofBytes b) Mode.plain)
    (s, some id)
  | .link t => ((s.plant dir (Path.split path).parts (.link t)).1, none)
  | .program p =>
    let (s, id) := s.plant dir (Path.split path).parts (.file (.program p) Mode.executable)
    (s, some id)
  | .remove => (s.prune dir (Path.split path).parts, none)
  | .keep => (s, (s.lookup dir path).toOption)

/-- Applies an entry below a directory. -/
def applyEntry (s : Store) (dir : NodeId) (e : SceneEntry) : Store :=
  match s.arrange dir e.path e.arrangement, e.mode with
  | (s, some id), some m => s.setMode id m
  | (s, _), _ => s

/-- What a shell expects of any system. -/
def basis : Store :=
  let add (s : Store) (path : String) (n : Node) : Store :=
    (s.plant root (Path.split (Utf8.encode path)).parts n).1
  let s := add empty "/dev/null" (.device .null)
  let s := add s "/dev/full" (.device .full)
  add s "/bin/sh" (.file (.program {}) Mode.executable)

end Store

namespace Scene

/-- The scene in the directory with an absolute path, with nothing of its own yet. -/
def create (path : Bytes) : Scene :=
  let (store, root) := Store.basis.makeDirs Store.root (Path.split path).parts
  let (store, cwd) := store.addNode root (Utf8.encode "w") (.dir [] root true)
  let (store, _) := store.addNode root (Utf8.encode "home") (.dir [] root true)
  let (store, _) := store.addNode root (Utf8.encode "bin") (.dir [] root true)
  let env : Environment :=
    [("HOME", path ++ Utf8.encode "/home"), ("PATH", path ++ Utf8.encode "/bin")]
  ⟨{ store, cwd, env }, root⟩

/-- Applies entries in order. -/
def apply (b : Scene) (entries : List SceneEntry) : Scene :=
  let store := entries.foldl (fun s e => s.applyEntry b.root e) b.world.store
  { b with world := { b.world with store } }

/-- Sets or removes variables in order. -/
def setEnv (b : Scene) (changes : List (String × Option Bytes)) : Scene :=
  let env := changes.foldl (fun env (name, value) => env.put name value) b.world.env
  { b with world := { b.world with env } }

/-- What lies below the directory of the scene, unless something there cannot be read. -/
def photograph (b : Scene) : Option (List Store.Sight) :=
  b.world.store.photograph b.root

end Scene

end CommandShell
