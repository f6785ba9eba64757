import ChapelCheck.Diagnostic
import ChapelCheck.Text.Blank
import ChapelCheck.Json

/-!
# ChapelCheck.Editor.Diagnostic

Diagnostics as an editor shows them: a severity, and a range of lines that are
counted from 0.
-/

namespace ChapelCheck.Editor

/-- How serious a diagnostic is. -/
inductive Severity where
  | error
  | warning
  | information
deriving DecidableEq, Repr

/-- The number an editor knows a severity by. -/
def Severity.number : Severity → Nat
  | .error => 1
  | .warning => 2
  | .information => 3

/-- The severity of a compiler category: letter case and blanks around it say
nothing, and what is neither a warning nor a note is an error. -/
def Severity.ofKind (kind : String) : Severity :=
  let word := String.ofList ((Text.trim kind.toList).map Char.toLower)
  if word = "warning" then .warning
  else if word = "note" then .information
  else .error

/-- A diagnostic for an editor.  It covers a range of whole lines: from the
start of line `startLine` to the start of line `endLine`. -/
structure Diagnostic where
  startLine : UInt32
  endLine : UInt32
  severity : Severity
  message : String
deriving DecidableEq, Repr

namespace Diagnostic

/-- What the editor names as the origin of a diagnostic. -/
def origin : String := "chpl"

/-- The line of an editor for a line of the compiler; there is no line before
the first. -/
def lineOf (n : UInt32) : UInt32 := if n = 0 then 0 else n - 1

/-- A diagnostic for the editor: it covers its whole line, and without a
message shows its category. -/
def ofDiagnostic (d : ChapelCheck.Diagnostic) : Diagnostic where
  startLine := lineOf d.line
  endLine := lineOf d.line + 1
  severity := Severity.ofKind d.kind
  message := if d.message = "" then d.kind else d.message

/-- The diagnostics that belong to a file, for the editor. -/
def forFile (ds : List ChapelCheck.Diagnostic) (file : Path) : List Diagnostic :=
  (ds.filter fun d => d.file.Same file).map ofDiagnostic

/-- The start of a line. -/
def position (line : UInt32) : Json :=
  .object [("character", .ofNat 0), ("line", .ofNat line.toNat)]

/-- A diagnostic in the form that editors read. -/
def toJson (d : Diagnostic) : Json :=
  .object [
    ("message", .string d.message),
    ("range", .object [("end", position d.endLine), ("start", position d.startLine)]),
    ("severity", .ofNat d.severity.number),
    ("source", .string origin)]

end Diagnostic

end ChapelCheck.Editor
