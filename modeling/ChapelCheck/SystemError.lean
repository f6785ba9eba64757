import ChapelCheck.Text.Decimal

/-!
# ChapelCheck.SystemError

What the operating system refuses, and how each refusal is worded.
-/

namespace ChapelCheck

/-- Why a file operation or the start of a program failed. -/
inductive SystemError where
  /-- There is no such file or directory. -/
  | notFound
  /-- A program file has no form that can be run. -/
  | badProgram
  /-- A program may not be run: it is a directory, or not executable. -/
  | denied
  /-- Something of that name is there already. -/
  | alreadyExists
  /-- A path leads through something that is no directory. -/
  | notADirectory
  /-- A directory was read as a file. -/
  | isADirectory
  /-- A name or a whole path is longer than the system takes. -/
  | nameTooLong
  /-- A directory that should be empty is not. -/
  | notEmpty
  /-- Symbolic links lead in a circle. -/
  | linkLoop
  /-- A path holds a NUL character. -/
  | nulInPath
  /-- A program name, an argument or a variable holds a NUL character. -/
  | nulInArgument
  /-- A file that is read as text is no UTF-8. -/
  | notText
deriving DecidableEq, Repr

namespace SystemError

/-- The system's own words and number for a refusal, where it has them. -/
def wording : SystemError → String × Option Nat
  | .notFound => ("No such file or directory", some 2)
  | .badProgram => ("Exec format error", some 8)
  | .denied => ("Permission denied", some 13)
  | .alreadyExists => ("File exists", some 17)
  | .notADirectory => ("Not a directory", some 20)
  | .isADirectory => ("Is a directory", some 21)
  | .nameTooLong => ("File name too long", some 36)
  | .notEmpty => ("Directory not empty", some 39)
  | .linkLoop => ("Too many levels of symbolic links", some 40)
  | .nulInPath => ("file name contained an unexpected NUL byte", none)
  | .nulInArgument => ("nul byte found in provided data", none)
  | .notText => ("stream did not contain valid UTF-8", none)

/-- The message of a refusal: the wording, and the number in parentheses. -/
def message (e : SystemError) : String :=
  match e.wording with
  | (words, some n) => words ++ " (os error " ++ Text.Decimal.text n ++ ")"
  | (words, none) => words

end SystemError

end ChapelCheck
