import CommandShell.Proofs.Number.Signed
import CommandShell.Proofs.Shell.HistoryFile

/-!
# The code that ends a shell

A line `exit` with an argument ends the shell if the argument spells a number of 32 bits, and with
no other argument. The status of the program is what the number leaves modulo 256, for negative
numbers, too. With any other argument the line is answered by an error, and the shell goes on with
the lines that follow.

* `ends_exit_iff` — which lines with an argument end the shell.
* `run_append_goesOn` — lines that do not end the shell lead to the lines that follow them.
* `exit_numeral` — the answer to every argument, and the status it leads to.
-/

namespace CommandShell

variable {a : String} {rest : List String} {k : Int}

/-- An argument that `exit` accepts, and the number that it spells. -/
def ExitCode (a : String) (k : Int) : Prop :=
  Number.Spells a.toList k ∧ Number.Fits32 k

namespace Builtin

theorem exitCode_eq_ok_iff (rest : List String) :
    exitCode (a :: rest) = .ok k ↔ ExitCode a k := by
  unfold ExitCode
  rw [← Number.signed32?_eq_some_iff, exitCode]
  cases Number.signed32? a with
  | none => simp
  | some n => simp

theorem exitCode_eq_error (h : ∀ k, ¬ ExitCode a k) :
    exitCode (a :: rest) = .error (.numericArgument a) := by
  cases hcode : exitCode (a :: rest) with
  | ok k => exact absurd ((exitCode_eq_ok_iff rest).1 hcode) (h k)
  | error e =>
    rw [exitCode] at hcode
    split at hcode
    · cases hcode
    · exact hcode.symm

end Builtin

/-- An argument that is not accepted is named on standard error. -/
theorem Output.ofError_numericArgument (a : String) : Output.ofError (.numericArgument a) =
    ⟨[], Utf8.encode ("exit: " ++ a ++ ": numeric argument required\n")⟩ := by
  have hmessage : (CommandError.numericArgument a).message =
      "exit: " ++ a ++ ": numeric argument required" := rfl
  have hend : ": numeric argument required" ++ "\n" = ": numeric argument required\n" := by decide
  rw [Output.ofError, hmessage, String.append_assoc, hend]

namespace Shell

variable {line : String}

/-! ## Lines -/

/-- A line with an argument for `exit` ends the shell exactly if the argument is accepted. -/
theorem ends_exit_iff (hargs : (Command.ofLine line).args = "exit" :: a :: rest) :
    ends line = true ↔ ∃ k, ExitCode a k := by
  have hname : Builtin.ofName? "exit" = some .exit := rfl
  simp only [ends, hargs, hname, ← Builtin.exitCode_eq_ok_iff rest]
  cases Builtin.exitCode (a :: rest) with
  | ok k => simp [Except.isOk, Except.toBool]
  | error e => simp [Except.isOk, Except.toBool]

/-- It ends the shell with the number that the argument spells. -/
theorem runLine_exit (s : Shell) (hargs : (Command.ofLine line).args = "exit" :: a :: rest)
    (hcode : ExitCode a k) : (s.runLine line).2 = some k := by
  have hname : Builtin.ofName? "exit" = some .exit := rfl
  have hline : (s.world.runLine line).2 = .ok (.exit k) := by
    rw [World.runLine_of_args _ hargs, World.dispatch_exit _ hname,
      (Builtin.exitCode_eq_ok_iff rest).2 hcode]
  rw [runLine, remember_world]
  rcases hrun : s.world.runLine line with ⟨w, result⟩
  rw [hrun] at hline
  obtain rfl : result = .ok (.exit k) := hline
  rfl

/-- Some bytes of the input are a line after which the shell goes on. -/
def GoesOn (b : Bytes) : Prop :=
  ∃ line, readLine b = .ok line ∧ ends line = false

/-- After a line that does not end it, the shell runs the lines that follow. -/
theorem run_cons_goesOn (s : Shell) {b : Bytes} (hread : readLine b = .ok line)
    (hends : ends line = false) (more : List Bytes) :
    s.run (b :: more) = (s.prompt.runLine line).1.run more := by
  rw [run]
  simp only [hread]
  rcases hrun : s.prompt.runLine line with ⟨t, code⟩
  have hsome := runLine_isSome hrun
  rw [hends] at hsome
  cases code with
  | none => rfl
  | some k => cases hsome

/-- Lines that do not end the shell lead to the lines that follow them. -/
theorem run_append_goesOn (s : Shell) {before : List Bytes} (h : ∀ b ∈ before, GoesOn b)
    (more : List Bytes) : ∃ t : Shell, s.run (before ++ more) = t.run more := by
  -- The induction is on these lines, for any shell, as each of them leaves another one.
  induction before generalizing s with
  | nil => exact ⟨s, rfl⟩
  | cons b before ih =>
    obtain ⟨⟨line, hread, hends⟩, hbefore⟩ := List.forall_mem_cons.1 h
    rw [List.cons_append, run_cons_goesOn s hread hends]
    exact ih _ hbefore

/-- A line that ends the shell is the last one that is run. -/
theorem run_cons_exit (s : Shell) {b : Bytes} (hread : readLine b = .ok line)
    (hargs : (Command.ofLine line).args = "exit" :: a :: rest) (hcode : ExitCode a k)
    (more : List Bytes) : ∃ t : Shell, s.run (b :: more) = (t, .exit k) := by
  have hexit := runLine_exit s.prompt hargs hcode
  rw [run]
  simp only [hread]
  rcases hrun : s.prompt.runLine line with ⟨t, code⟩
  rw [hrun] at hexit
  obtain rfl : code = some k := hexit
  exact ⟨t, rfl⟩

/-- The status of a program that is ended by a code is a byte. -/
theorem status_finish (s : Shell) (k : Int) :
    ((s.finish (.exit k)).2 : Int) = k % 256 ∧ (s.finish (.exit k)).2 < 256 := by
  have hstatus : (s.finish (.exit k)).2 = (k % 256).toNat := rfl
  have hlow : 0 ≤ k % 256 := Int.emod_nonneg k (by decide)
  have hhigh : k % 256 < 256 := Int.emod_lt_of_pos k (by decide)
  rw [hstatus]
  omega

end Shell

open Shell in
/-- `exit` accepts exactly the numbers of 32 bits, and none of them wraps on the way. A line with
such an argument, reached after lines that do not end the shell, ends the program with what the
number leaves modulo 256. Any other argument gives an error and changes nothing, and the shell goes
on. -/
theorem exit_numeral (a : String) (rest : List String) :
    Number.checked32? a = Number.signed32? a ∧
    (∀ (w : World) (k : Int), w.dispatch "exit" (a :: rest) = (w, .exit k) ↔ ExitCode a k) ∧
    (∀ k, ExitCode a k → ∀ (w : World) (input b : Bytes) (before after : List Bytes)
      (line : String), Text.lines input = before ++ b :: after → (∀ l ∈ before, GoesOn l) →
        readLine b = .ok line → (Command.ofLine line).args = "exit" :: a :: rest →
          ((w.runShell input).2 : Int) = k % 256 ∧ (w.runShell input).2 < 256) ∧
    ((∀ k, ¬ ExitCode a k) →
      (∀ w : World, w.dispatch "exit" (a :: rest) =
        (w, .output ⟨[], Utf8.encode ("exit: " ++ a ++ ": numeric argument required\n")⟩)) ∧
      ∀ (s : Shell) (b : Bytes) (line : String) (more : List Bytes),
        readLine b = .ok line → (Command.ofLine line).args = "exit" :: a :: rest →
          s.run (b :: more) = (s.prompt.runLine line).1.run more) := by
  have hname : Builtin.ofName? "exit" = some .exit := rfl
  refine ⟨Number.checked32?_eq a, ?_, ?_, ?_⟩
  · intro w k
    rw [World.dispatch_exit w hname, ← Builtin.exitCode_eq_ok_iff rest]
    cases Builtin.exitCode (a :: rest) with
    | ok n => simp
    | error e => simp
  · intro k hcode w input b before after line hlines hbefore hread hargs
    obtain ⟨s, hreached⟩ := run_append_goesOn (Shell.start w) hbefore (b :: after)
    obtain ⟨t, hended⟩ := run_cons_exit s hread hargs hcode after
    have hrun : w.runShell input = t.finish (.exit k) := by
      rw [World.runShell, hlines, hreached, hended]
    rw [hrun]
    exact t.status_finish k
  · intro hrefused
    constructor
    · intro w
      rw [World.dispatch_exit w hname, Builtin.exitCode_eq_error hrefused]
      simp only [Output.ofError_numericArgument]
    · intro s b line more hread hargs
      have hends : ends line = false := by
        rw [Bool.eq_false_iff, Ne, ends_exit_iff hargs]
        rintro ⟨k, hcode⟩
        exact hrefused k hcode
      exact run_cons_goesOn s hread hends more

/-- A line that fails and one that ends the shell with a negative number, written with zeros. -/
def negativeExit : Bytes :=
  Utf8.encode "echo hi > no/f\nexit -00129 x\necho no"

theorem exitCode_negative : ExitCode "-00129" (-129) :=
  Number.signed32?_eq_some_iff.1 rfl

theorem not_exitCode_tooGreat (k : Int) : ¬ ExitCode "2147483648" k := by
  intro hcode
  cases Number.signed32?_eq_some_iff.2 hcode

open Shell in
theorem exit_numeral_limits :
    ExitCode "-00129" (-129) ∧ ((({} : World).runShell negativeExit).2 : Int) = 127 ∧
      (∀ k, ¬ ExitCode "2147483648" k) ∧
      (({} : World).dispatch "exit" ["2147483648"]).2 =
        .output ⟨[], Utf8.encode "exit: 2147483648: numeric argument required\n"⟩ ∧
      ∀ (s : Shell) (more : List Bytes), s.run (Utf8.encode "exit 2147483648" :: more) =
        (s.prompt.runLine "exit 2147483648").1.run more := by
  have hlines : Text.lines negativeExit = [Utf8.encode "echo hi > no/f"] ++
      Utf8.encode "exit -00129 x" :: [Utf8.encode "echo no"] := by decide +kernel
  have hbefore : ∀ l ∈ [Utf8.encode "echo hi > no/f"], GoesOn l := by
    intro l hl
    rw [List.mem_singleton.1 hl]
    exact ⟨"echo hi > no/f", by decide +kernel, by decide +kernel⟩
  have hended := (exit_numeral "-00129" ["x"]).2.2.1 (-129) exitCode_negative {} negativeExit
    (Utf8.encode "exit -00129 x") [Utf8.encode "echo hi > no/f"] [Utf8.encode "echo no"]
    "exit -00129 x" hlines hbefore (by decide +kernel) (by decide +kernel)
  obtain ⟨hanswer, hnext⟩ := (exit_numeral "2147483648" []).2.2.2 not_exitCode_tooGreat
  refine ⟨exitCode_negative, hended.1, not_exitCode_tooGreat, ?_, ?_⟩
  · rw [hanswer]
    rfl
  · intro s more
    exact hnext s _ _ more (by decide +kernel) (by decide +kernel)

end CommandShell
