import ChapelCheck.Diagnostic

/-!
# ChapelCheck.Diagnostic.Merge

Merging the diagnostics at one place.  The compiler spreads one issue over
several lines ("candidates are: ..."); these are put together into the first
of them, which keeps its kind and its spelling of the file.
-/

namespace ChapelCheck.Diagnostic

/-- A diagnostic with the message of a later one behind its own. -/
def extend (first later : Diagnostic) : Diagnostic :=
  { first with message := first.message ++ " " ++ later.message }

/-- Adds a diagnostic to merged ones: to the one at its place, or at the end
if its place is new. -/
def absorb (d : Diagnostic) : List Diagnostic → List Diagnostic
  | [] => [d]
  | e :: es => if SamePlace e d then extend e d :: es else e :: absorb d es

/-- One diagnostic per place, in the order in which the places first occur. -/
def merge (ds : List Diagnostic) : List Diagnostic :=
  ds.foldl (fun merged d => absorb d merged) []

end ChapelCheck.Diagnostic
