import CommandShell.OsError
import CommandShell.Store.Path

/-!
# History

The history holds the latest lines, up to a limit; an empty line and one equal to the line before
it are left out. It is kept in a file that starts with a mark and then has one line each, in which
backslashes and line feeds are escaped; a file without the mark holds plain lines. It never
holds more lines than the limit (`length_entries_le`), a line that is added comes first
(`entries_add`), and reading undoes the escapes (`unescape?_escape`).
-/

namespace CommandShell

/-- The lines of a sequence of bytes, without their ends. A carriage return before a line feed
belongs to the end of the line; the last line may lack its end. -/
def Text.lines (b : Bytes) : List Bytes :=
  let ps := Path.pieces 0x0A b
  let ended (l : Bytes) : Bytes := if l.getLast? = some 0x0D then l.dropLast else l
  ps.dropLast.map ended ++ ps.getLast?.toList.filter fun l => !l.isEmpty

/-- The lines that a shell remembers. -/
structure History where
  /-- All lines that have been added, the latest one first. -/
  added : List String := []
  /-- How many lines the history holds at most. -/
  limit : Nat
  /-- Whether a line has been added since the history was read from its file. -/
  changed : Bool := false
  deriving DecidableEq, Repr

namespace History

/-- The lines that the history holds, the latest one first. -/
def entries (h : History) : List String :=
  h.added.take h.limit

theorem length_entries_le (h : History) : h.entries.length ≤ h.limit :=
  List.length_take_le h.limit h.added

/-- Whether a line is left out. -/
def ignores (h : History) (line : String) : Bool :=
  h.limit = 0 || line.isEmpty || h.added.head? = some line

/-- Adds a line; the oldest one makes room for it. -/
def add (h : History) (line : String) : History :=
  if h.ignores line then h else { h with added := line :: h.added, changed := true }

theorem entries_add (h : History) (line : String) (kept : h.ignores line = false) :
    (h.add line).entries = (line :: h.entries).take h.limit := by
  cases hl : h.limit with
  | zero => simp [ignores, hl] at kept
  | succ n => simp [add, kept, entries, hl, List.take_take]

/-! ## The file -/

/-- The first line of a file with escapes. -/
def mark : String := "#V2"

/-- A line with its backslashes and line feeds escaped. -/
def escape (line : List Char) : List Char :=
  line.flatMap fun c => if c = '\\' then ['\\', '\\'] else if c = '\n' then ['\\', 'n'] else [c]

/-- The line that a line with escapes stands for, unless an escape is unknown. -/
def unescape? : List Char → Option (List Char)
  | [] => some []
  | '\\' :: 'n' :: rest => (unescape? rest).map ('\n' :: ·)
  | '\\' :: '\\' :: rest => (unescape? rest).map ('\\' :: ·)
  | c :: rest => if c = '\\' then none else (unescape? rest).map (c :: ·)

theorem unescape?_escape (line : List Char) : unescape? (escape line) = some line := by
  induction line with
  | nil => rfl
  | cons c rest ih =>
    by_cases hb : c = '\\'
    · subst hb
      simpa [escape, unescape?] using ih
    · by_cases hn : c = '\n'
      · subst hn
        simpa [escape, unescape?] using ih
      · have h : escape (c :: rest) = c :: escape rest := by simp [escape, hb, hn]
        rw [h, unescape?]
        · simp [hb, ih]
        · intro _ h; exact absurd h hb
        · intro _ h; exact absurd h hb

/-- The line that a line of a file stands for. One with an unknown escape stands for itself. -/
def readLine (escaped : Bool) (line : String) : String :=
  if escaped then ((unescape? line.toList).map String.ofList).getD line else line

/-- The content of the file that keeps the history. -/
def toText (h : History) : String :=
  let line (l : String) : String := String.ofList (escape l.toList) ++ "\n"
  mark ++ "\n" ++ String.join (h.entries.reverse.map line)

/-- Adds lines of a file, up to the first one that is no text. -/
def addLines (h : History) (escaped : Bool) : List Bytes → History × Except OsError Unit
  | [] => (h, .ok ())
  | b :: rest =>
    match Utf8.decode? b with
    | none => (h, .error .notUtf8)
    | some line => (h.add (readLine escaped line)).addLines escaped rest

/-- Adds what a file holds. The lines that are read count as a change only if the file has an
error. -/
def addFile (h : History) (b : Bytes) : History × Except OsError Unit :=
  let ls := Text.lines b
  let escaped := ls.head? = some (Utf8.encode mark)
  match h.addLines escaped (if escaped then ls.drop 1 else ls) with
  | (h, .ok ()) => ({ h with changed := false }, .ok ())
  | r => r

end History

end CommandShell
