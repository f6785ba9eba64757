import ChapelCheck.Diagnostic.Merge
import ChapelCheck.Diagnostic.Output
import ChapelCheck.Logged
import ChapelCheck.Path.Set
import ChapelCheck.Text.Utf8

/-!
# ChapelCheck.Check

One check of a file: the compiler is run on it, and its output becomes one
diagnostic per place.  Issues in the modules that come with the compiler are
left out, unless one of these modules is the checked file itself.
-/

namespace ChapelCheck

/-- Something that checks files. -/
structure Checker where
  /-- Checks a file, with the directories to search modules in. -/
  check : Path → List Path → Logged (Except StartError Output)
  /-- Whether a file is one of the checker's own. -/
  owns : Path → Bool

namespace Checker

/-- The compiler of some settings, given how programs are started. -/
def ofSettings (start : Invocation → Except SystemError Finished) (s : Settings) : Checker where
  check target includes := do
    let invocation := Compiler.invocation s target includes
    Logged.tell (.compilerRunning invocation)
    match ← Logged.start start invocation with
    | .error cause => return .error ⟨s.compiler, cause⟩
    | .ok finished =>
      Logged.tell (.compilerEnded s.compiler finished.status)
      return .ok ⟨finished.status.isSuccess, Text.Utf8.decodeLossy finished.errors⟩
  owns := Compiler.owns s.home

/-- Whether an issue is worth reporting when `target` is checked: it is in the
target itself, or in no file of the installation. -/
def reports (c : Checker) (target : Path) (d : Diagnostic) : Bool :=
  d.file.Same target || !(d.isMarked || c.owns d.file)

end Checker

/-- The events that the readings of an output give rise to. -/
def Diagnostic.Reading.event? : Diagnostic.Reading → Option Event
  | .diagnostic _ => none
  | .unnumbered line cause => some (.lineSkipped line cause)

/-- The diagnostics of an output; lines without a line number are logged. -/
def Diagnostic.readDiagnostics (output : String) : Logged (List Diagnostic) := do
  Logged.tellAll ((Diagnostic.readOutput output).filterMap Diagnostic.Reading.event?)
  return Diagnostic.parseOutput output

namespace Checker

/-- The diagnostics of a check of `target`: none if it was accepted, and else
the merged ones of its output that are worth reporting. -/
def extract (c : Checker) (target : Path) (includes : PathSet) :
    Logged (Except StartError (List Diagnostic)) := do
  match ← c.check target includes.toList with
  | .error e => return .error e
  | .ok output =>
    if output.success then
      Logged.tell (.fileAccepted target)
      return .ok []
    else
      let found ← Diagnostic.readDiagnostics output.text
      let merged := Diagnostic.merge (found.filter (c.reports target))
      Logged.tell (.fileRejected target merged.length)
      return .ok merged

end Checker

end ChapelCheck
