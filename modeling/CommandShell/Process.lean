import CommandShell.Store.Tree

/-!
# Processes

What a program does is not for the shell to say. It is called with arguments, in a directory and
with an environment, finds some bytes to read, and when it ends it has written its output and left
the files as it likes. A `Behaviour` says this of every program and every call. `Program.run` is the
one in which each program does what its file says and leaves the files as they are.
-/

namespace CommandShell

/-! ## Environments -/

/-- The variables of an environment with their values. -/
abbrev Environment := List (String × Bytes)

namespace Environment

/-- The value of a variable. -/
def get? (env : Environment) (name : String) : Option Bytes :=
  env.lookup name

/-- Sets a variable, or removes it. -/
def put (env : Environment) (name : String) (value : Option Bytes) : Environment :=
  let rest := env.filter (·.1 != name)
  match value with
  | none => rest
  | some v => (name, v) :: rest

theorem get?_put (env : Environment) (name : String) (value : Option Bytes) :
    (env.put name value).get? name = value := by
  have h : (env.filter (·.1 != name)).lookup name = none := by
    rw [List.lookup_eq_none_iff]
    intro e he
    have hne : e.1 ≠ name := by simpa using (List.mem_filter.1 he).2
    simpa using fun h => hne h.symm
  cases value with
  | none => simpa [put, get?] using h
  | some v => simp [put, get?]

/-- The value of a variable, if it is a text. -/
def text? (env : Environment) (name : String) : Option String :=
  (env.get? name).bind Utf8.decode?

end Environment

/-! ## Runs of programs -/

/-- What a command writes to its two streams. -/
structure Output where
  stdout : Bytes := []
  stderr : Bytes := []
  deriving DecidableEq, Repr

/-- What a program is called with. -/
structure Call where
  /-- The name by which it is called. -/
  command : String
  /-- The arguments after the name. -/
  args : List Bytes
  cwd : NodeId
  env : Environment
  /-- What the program finds to read. -/
  input : Bytes
  /-- How many requests to run a program have come before. A program that is called again need not
  do the same again. -/
  turn : Nat
  deriving DecidableEq, Repr

/-- What there is when a program has ended. -/
structure ProgramRun where
  /-- The files as the program has left them. -/
  store : Store
  output : Output
  ending : ProgramEnd
  deriving DecidableEq, Repr

/-- What each program does when it is called, given the files that it finds. -/
abbrev Behaviour := Program → Call → Store → ProgramRun

/-- What a program shows of the bytes that it finds to read: whether they hold a line. -/
def shownInput (input : Bytes) : String :=
  if input.contains 0x0A then "line\n" else "eof\n"

/-- Does what a program file says. -/
def Program.run (p : Program) (c : Call) (s : Store) : ProgramRun :=
  let dir := match s.pathOf c.cwd with
    | .ok d => d
    | .error _ => []
  let stdout := p.out
    ++ (if p.showArguments then
      c.args.flatMap fun a => Utf8.encode "[" ++ a ++ Utf8.encode "]\n" else [])
    ++ (if p.showDirectory then dir ++ Utf8.encode "\n" else [])
    ++ (if p.showInput then Utf8.encode (shownInput c.input) else [])
  ⟨s, ⟨stdout, p.err⟩, p.ending⟩

end CommandShell
