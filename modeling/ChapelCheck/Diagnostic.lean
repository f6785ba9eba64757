import ChapelCheck.Path

/-!
# ChapelCheck.Diagnostic

One issue that the compiler reports at a file and a line, and the errors in a
line that reports none.
-/

namespace ChapelCheck

/-- An issue at a file and a line. -/
structure Diagnostic where
  /-- The compiler's category, such as `error` or `warning`. -/
  kind : String
  /-- The source file, as the compiler spells it. -/
  file : Path
  /-- The line in the file, counted from 1. -/
  line : UInt32
  /-- What is wrong; several compiler lines may be joined in it by spaces. -/
  message : String
deriving DecidableEq, Repr

namespace Diagnostic

/-- Two diagnostics are at the same place when they name the same line of
files that mean the same. -/
def SamePlace (d e : Diagnostic) : Prop := d.line = e.line ∧ d.file.Same e.file

instance (d e : Diagnostic) : Decidable (SamePlace d e) :=
  inferInstanceAs (Decidable (_ ∧ _))

/-- How the compiler spells its own installation directory. -/
def installationMarker : String := "$CHPL_HOME"

/-- Whether the compiler spelled the file relative to its own installation. -/
def isMarked (d : Diagnostic) : Bool :=
  installationMarker.toList.isPrefixOf d.file.text.toList

end Diagnostic

/-- Why a line of compiler output is no diagnostic. -/
inductive LineError where
  /-- It has fewer than two colons. -/
  | tooFewFields
  /-- Its second field is no line number; the field is given without blanks. -/
  | invalidLineNumber (field : String)
deriving DecidableEq, Repr

/-- The wording of a line error. -/
def LineError.message : LineError → String
  | .tooFewFields => "expected at least 3 colon-separated fields"
  | .invalidLineNumber field => "line number " ++ Text.quoted field ++ " is not an integer"

end ChapelCheck
