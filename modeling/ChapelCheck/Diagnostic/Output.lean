import ChapelCheck.Diagnostic.Line

/-!
# ChapelCheck.Diagnostic.Output

Whole outputs of the compiler.  Each line is a diagnostic, or has a field
where the line number should be that is none, or is something else entirely;
of the last kind (banners, carets, source excerpts) nothing is kept.
-/

namespace ChapelCheck.Diagnostic

open Text

/-- What a line of output amounts to. -/
inductive Reading where
  | diagnostic (d : Diagnostic)
  /-- A line with enough fields but without a line number. -/
  | unnumbered (line : String) (error : LineError)
deriving DecidableEq, Repr

/-- What one line of output amounts to, if anything. -/
def readLine (line : List Char) : Option Reading :=
  match parseChars line with
  | .ok d => some (.diagnostic d)
  | .error .tooFewFields => none
  | .error (.invalidLineNumber field) =>
    some (.unnumbered (String.ofList line) (.invalidLineNumber field))

/-- What an output amounts to, line by line. -/
def readOutput (output : String) : List Reading :=
  (lines (trim output.toList)).filterMap readLine

/-- The diagnostic of a reading. -/
def Reading.diagnostic? : Reading → Option Diagnostic
  | .diagnostic d => some d
  | .unnumbered .. => none

/-- The diagnostics of an output, in order. -/
def parseOutput (output : String) : List Diagnostic :=
  (readOutput output).filterMap Reading.diagnostic?

end ChapelCheck.Diagnostic
