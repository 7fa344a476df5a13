import CommandShell.Dispatch
import CommandShell.Proofs.Command.Written
import CommandShell.Proofs.Routing.Delivery

/-!
# Writing words to a file

A line that runs `echo` on quoted words and redirects standard output to a quoted path writes the
words to the file, with one space between two of them and a line feed behind.

* `EchoLine.ofLine_text` — how the line is read.
* `runLine_echo` — what the line does.
-/

namespace CommandShell

open Store

/-! ## The line -/

/-- A line that writes words to a file. -/
structure EchoLine where
  words : List String
  /-- The operator as it is spelled. -/
  operator : String
  path : String
  plain : ∀ a ∈ words, a ∉ Operator.words
  redirects : operator ∈ Operator.stdoutWords
  deriving DecidableEq

namespace EchoLine

/-- The line as it is written. -/
def text (l : EchoLine) : String :=
  Words.toLine ("echo" :: l.words) ++ " " ++ l.operator ++ " " ++ Words.quote l.path

/-- The target that the line writes to. -/
def target (l : EchoLine) : Redirection :=
  ⟨l.path, Operator.modeOf l.operator⟩

/-- What the line writes. -/
def output (l : EchoLine) : Bytes :=
  Utf8.encode (" ".intercalate l.words ++ "\n")

/-- The command that the line spells. -/
def command (l : EchoLine) : Command :=
  ⟨"echo" :: l.words, ⟨some l.target, none⟩⟩

/-- What the line adds to the log before its target is opened. -/
def announcement (l : EchoLine) : List LogRecord :=
  [⟨.debug, .shell, World.commandRecord l.command⟩, ⟨.debug, .commands, "builtin: echo"⟩]

/-- What the line adds to the log. -/
def records (l : EchoLine) : List LogRecord :=
  l.announcement ++ [l.target.record]

/-! ### Reading the line -/

theorem words_plain (l : EchoLine) : ∀ a ∈ "echo" :: l.words, a ∉ Operator.words := by
  intro a ha
  rcases List.mem_cons.1 ha with rfl | ha
  · decide
  · exact l.plain a ha

/-- The line as one of the lines that name a command, arguments and redirections. -/
def written (l : EchoLine) : WrittenLine :=
  ⟨"echo", l.words, [⟨l.operator, l.path, Operator.mem_words_iff.2 (.inl l.redirects)⟩],
    l.words_plain⟩

theorem text_written (l : EchoLine) : l.written.text = l.text := by
  simp [WrittenLine.text, written, WrittenRedirection.text, text, String.append_assoc]

theorem ofLine_text (l : EchoLine) : Command.ofLine l.text = l.command := by
  have htargets : l.written.targets = ⟨some l.target, none⟩ := by
    simp [WrittenLine.targets, written, WrittenRedirection.item, Command.Split.command,
      Command.Split.target, Command.Item.target?, l.redirects,
      Operator.not_mem_stderrWords l.redirects, target]
  rw [← text_written, WrittenLine.ofLine_text, htargets]
  rfl

end EchoLine

/-! ## What the line does -/

namespace World

variable {w : World} {l : EchoLine} {p : Place}

/-- Standard error is empty, so only the target is written to. -/
theorem runLine_text (w : World) (l : EchoLine) :
    w.runLine l.text =
      (((w.logAll l.announcement).writeFile l.target [⟨.stdout, l.output⟩]).1,
        ((w.logAll l.announcement).writeFile l.target [⟨.stdout, l.output⟩]).2.map
          fun _ => .continue) := by
  have hecho : Builtin.ofName? "echo" = some .echo := by decide
  simp only [runLine, EchoLine.ofLine_text, EchoLine.command, dispatch, hecho, Builtin.run,
    Output.ofResult, Output.ofText, route_stdout]
  rfl

/-- The line is written to its target, behind what the target keeps. -/
theorem runLine_echo (h : Target w.store w.cwd (Utf8.encode l.path) p)
    (hroom : w.RoomFor l.output) :
    ∃ u id, w.runLine l.text = ({ w with store := u }, .ok .continue) ∧
      Stored w.store u p id (w.base l.target (w.logged l.records id) ++ l.output)
        (w.logged l.records) := by
  obtain ⟨s, hlog, hshape, hkeeps⟩ := w.logAll_store l.announcement
  have htarget : Target s w.cwd (Utf8.encode l.path) p := h.of_sameShape hshape
  obtain ⟨u, id, hwrite, hstored⟩ :=
    writeFile_of_room (w := { w with store := s }) (t := l.target) htarget
      (roomFor_singleton _ .stdout hroom)
  have hbase : World.base { w with store := s } l.target (w.logged [l.target.record] id) =
      w.base l.target (w.logged l.records id) := by
    rw [EchoLine.records, logged_append]
    refine base_of_keeps h htarget (fun j hj => ?_) _
    subst hj
    obtain rfl := hstored.found
    exact hkeeps j
  have hadded : w.logged l.records =
      fun j => w.logged l.announcement j ++ w.logged [l.target.record] j :=
    funext fun j => w.logged_append l.announcement [l.target.record] j
  refine ⟨u, id, ?_, ?_⟩
  · rw [runLine_text, hlog, hwrite]
    rfl
  · have hafter := hstored.after hshape hkeeps
    rw [List.flatMap_singleton] at hafter
    rw [← hbase, hadded]
    exact hafter

end World

end CommandShell
