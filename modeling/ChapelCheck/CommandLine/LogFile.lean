import ChapelCheck.Path

/-!
# ChapelCheck.CommandLine.LogFile

Where the log file is when no place is given: in the directory for user data,
which the environment may name.
-/

namespace ChapelCheck.LogFile

/-- The name of the program's own directory. -/
def directoryName : String := "chapel-lsp"

/-- The name of the log file. -/
def fileName : String := "chapel-lsp.log"

/-- The directory for the program's data: in `dataHome` if the environment names
one, else in the home directory, else in the working directory. -/
def dataDirectory (dataHome home : Option String) : Path :=
  let base : Path := match dataHome, home with
    | some d, _ => ⟨d⟩
    | none, some h => (Path.mk h).child ".local/share"
    | none, none => ⟨"."⟩
  base.child directoryName

/-- The log file in the directory for the program's data. -/
def defaultPath (dataHome home : Option String) : Path :=
  (dataDirectory dataHome home).child fileName

end ChapelCheck.LogFile
