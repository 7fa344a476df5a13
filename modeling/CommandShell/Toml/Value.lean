import CommandShell.Number.Binary64

/-!
# TOML values

A table lists its entries in the order in which the document makes them. Each table keeps its
origin, which decides what later lines may add to it: a table in braces is closed, a dotted key
extends only tables that dotted keys made, and a header defines a table that only headers below it
have implied. `Table.insert` enters a value under a dotted key, and `Table.define` and
`Table.extend` open the table of a header.
-/

namespace CommandShell.Toml

/-- How a table came to be. -/
inductive Origin where
  /-- Written in braces. -/
  | inline
  /-- Defined by its own header, or the top of the document. -/
  | header
  /-- Made by a dotted key that leads through it. -/
  | dotted
  /-- Made by a header that leads through it. -/
  | implied
  deriving DecidableEq, Repr

/-- A day of the calendar. -/
structure Date where
  year : Nat
  month : Nat
  day : Nat
  deriving DecidableEq, Repr

/-- A time of day. -/
structure TimeOfDay where
  hour : Nat
  minute : Nat
  second : Nat
  /-- The decimal digits of the part of a second. -/
  fraction : List Char
  deriving DecidableEq, Repr

/-- A date, a time of day or both. -/
inductive Datetime where
  | date (d : Date)
  | time (t : TimeOfDay)
  /-- Both, with the minutes by which the time is ahead of universal time, if they are given. -/
  | dateTime (d : Date) (t : TimeOfDay) (offset : Option Int)
  deriving DecidableEq, Repr

/-- A value of a document. -/
inductive Value where
  | string (s : String)
  | integer (n : Int)
  | float (x : Number.Binary64)
  | boolean (b : Bool)
  | datetime (d : Datetime)
  | array (items : List Value)
  | table (origin : Origin) (entries : List (String × Value))
  /-- The tables that headers in double brackets have added, the latest one first. -/
  | tables (items : List (List (String × Value)))

/-- The entries of a table. -/
abbrev Table := List (String × Value)

/-- Whether a key or header that makes tables of the origin `through` may lead into a table: a
dotted key needs a table that no header has defined, and nothing leads into braces. -/
def Origin.admits (through : Origin) : Origin → Bool
  | .inline => false
  | .header => through != .dotted
  | .dotted | .implied => true

namespace Table

/-- Replaces the value of a key that is there. -/
def replace (t : Table) (key : String) (v : Value) : Table :=
  t.map fun e => if e.1 = key then (key, v) else e

/-- Changes the table that a path leads to, and tells what the change tells. Tables that are
missing on the way are made with the origin `through`. Of the tables of double brackets, the latest
one is meant. -/
def update {α : Type} (through : Origin) (change : Origin → Table → Option (Table × α)) :
    List String → Origin → Table → Option (Table × α)
  | [], origin, t => change origin t
  | key :: path, _, t =>
    match t.lookup key with
    | none => do
      let (inner, a) ← update through change path through []
      some (t ++ [(key, .table through inner)], a)
    | some (.table origin inner) =>
      if through.admits origin then do
        let (inner, a) ← update through change path origin inner
        some (t.replace key (.table origin inner), a)
      else none
    | some (.tables (latest :: ts)) => do
      let (latest, a) ← update through change path .header latest
      some (t.replace key (.tables (latest :: ts)), a)
    | some _ => none

/-- Enters a value under a new key. -/
def add (t : Table) (key : String) (v : Value) : Option Table :=
  if (t.lookup key).isSome then none else some (t ++ [(key, v)])

/-- Enters a value under a dotted key. A key of several parts adds only to tables that such keys
have made. -/
def insert (t : Table) (path : List String) (v : Value) : Option Table := do
  let key ← path.getLast?
  let way := path.dropLast
  let change (origin : Origin) (t : Table) : Option (Table × Unit) :=
    if way.isEmpty || origin = .dotted then (t.add key v).map (·, ()) else none
  let (t, _) ← update .dotted change way .header t
  some t

/-- Enters values under dotted keys, in order. -/
def insertAll (t : Table) (entries : List (List String × Value)) : Option Table :=
  entries.foldlM (fun t e => t.insert e.1 e.2) t

/-- Takes out the table of a header, so that it can be defined. It may exist only because headers
have implied it. -/
def take (t : Table) (path : List String) : Option (Table × Table) := do
  let key ← path.getLast?
  let change (_ : Origin) (t : Table) : Option (Table × Table) :=
    match t.lookup key with
    | none => some (t, [])
    | some (.table .implied inner) => some (t.filter (·.1 != key), inner)
    | some _ => none
  update .implied change path.dropLast .header t

/-- Enters a table under the path of its header, behind what is there. -/
def define (t : Table) (path : List String) (inner : Table) : Option Table := do
  let key ← path.getLast?
  let change (_ : Origin) (t : Table) : Option (Table × Unit) :=
    (t.add key (.table .header inner)).map (·, ())
  let (t, _) ← update .implied change path.dropLast .header t
  some t

/-- Enters a further table under the path of a header in double brackets. -/
def extend (t : Table) (path : List String) (inner : Table) : Option Table := do
  let key ← path.getLast?
  let change (_ : Origin) (t : Table) : Option (Table × Unit) :=
    match t.lookup key with
    | none => some (t ++ [(key, .tables [inner])], ())
    | some (.tables ts) => some (t.replace key (.tables (inner :: ts)), ())
    | some _ => none
  let (t, _) ← update .implied change path.dropLast .header t
  some t

end Table

end CommandShell.Toml
