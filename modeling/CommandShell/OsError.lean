/-!
# Errors of the operating system

An action on files or programs fails for one of a few reasons. `OsError.message` gives each reason
its text; a numbered reason shows its number.
-/

namespace CommandShell

/-- The numbered reasons for which an action fails. -/
inductive Errno where
  | noEntry
  | argumentsTooLong
  | execFormat
  | accessDenied
  | notDirectory
  | isDirectory
  | noSpace
  | nameTooLong
  | tooManyLinks
  deriving DecidableEq, Repr

namespace Errno

/-- The number of a reason. -/
def code : Errno → Nat
  | .noEntry => 2
  | .argumentsTooLong => 7
  | .execFormat => 8
  | .accessDenied => 13
  | .notDirectory => 20
  | .isDirectory => 21
  | .noSpace => 28
  | .nameTooLong => 36
  | .tooManyLinks => 40

/-- The reason in words. -/
def describe : Errno → String
  | .noEntry => "No such file or directory"
  | .argumentsTooLong => "Argument list too long"
  | .execFormat => "Exec format error"
  | .accessDenied => "Permission denied"
  | .notDirectory => "Not a directory"
  | .isDirectory => "Is a directory"
  | .noSpace => "No space left on device"
  | .nameTooLong => "File name too long"
  | .tooManyLinks => "Too many levels of symbolic links"

end Errno

/-- The reasons for which an action on files, programs or consoles fails. -/
inductive OsError where
  /-- The system refused the action. -/
  | errno (e : Errno)
  /-- A path holds a NUL byte. -/
  | nulInPath
  /-- The name of a program or one of its arguments holds a NUL byte. -/
  | nulInArgument
  /-- A text was to be read, but the bytes are not UTF-8. -/
  | notUtf8
  /-- A console takes no more bytes. -/
  | consoleFull
  /-- A console cannot be flushed. -/
  | flushFailed
  deriving DecidableEq, Repr

/-- The text of an error. -/
def OsError.message : OsError → String
  | .errno e => e.describe ++ " (os error " ++ toString e.code ++ ")"
  | .nulInPath => "file name contained an unexpected NUL byte"
  | .nulInArgument => "nul byte found in provided data"
  | .notUtf8 => "stream did not contain valid UTF-8"
  | .consoleFull => "console full"
  | .flushFailed => "flush failed"

end CommandShell
