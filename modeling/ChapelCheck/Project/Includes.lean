import ChapelCheck.FileSystem.Visit
import ChapelCheck.Logged
import ChapelCheck.Path.Set
import ChapelCheck.Project.Root
import ChapelCheck.Text.Blank

/-!
# ChapelCheck.Project.Includes

The directories that a project's modules are searched in: those that its
manifest lists, and every directory below `src` that directly holds a source
file.
-/

namespace ChapelCheck.Project

/-- The directory of a project's sources. -/
def sourceName : String := "src"

/-- The extension of source files. -/
def sourceExtension : String := "chpl"

/-! ## the manifest -/

/-- The entries of a manifest's text: its lines without the blanks around
them, unless nothing is left. -/
def manifestLines (text : String) : List (List Char) :=
  ((Text.lines text.toList).map Text.trim).filter (· ≠ [])

/-- The directories that a manifest's text lists, read from the root. -/
def listedDirectories (root : Path) (text : String) : PathSet :=
  PathSet.ofListLatest
    ((manifestLines text).map fun line => root.join (Path.plain ⟨String.ofList line⟩))

/-- The directories that a project's manifest lists.  A missing manifest lists
none. -/
def manifestEntries (fs : FileSystem) (root : Path) : Logged PathSet := do
  let manifest := root.child manifestName
  match fs.readText manifest with
  | .ok text => return listedDirectories root text
  | .error .notFound => return PathSet.empty
  | .error cause =>
    Logged.tell (.manifestUnreadable manifest cause)
    return PathSet.empty

/-! ## the sources -/

/-- Whether something that was visited is a source file. -/
def isSource (fs : FileSystem) (p : Path) (found : Tree) : Bool :=
  p.extension? = some sourceExtension && fs.leadsToFile p found

/-- The directory of a visited source file. -/
def sourceDirectory? (fs : FileSystem) : Visit → Option Path
  | .entry p found => if isSource fs p found then p.parent? else none
  | .unreadable .. => none

/-- The event of a visit that could not be made. -/
def visitEvent? : Visit → Option Event
  | .entry .. => none
  | .unreadable p cause => some (.entryUnreadable p cause)

/-- The directories below `src` that directly hold a source file. -/
def sourceDirectories (fs : FileSystem) (root : Path) : Logged PathSet := do
  let sources := root.child sourceName
  if fs.isDirectory sources then
    let visits := fs.visit sources
    Logged.tellAll (visits.filterMap visitEvent?)
    return PathSet.ofList (visits.filterMap (sourceDirectory? fs))
  else return PathSet.empty

/-! ## both -/

/-- The directories that a project's modules are searched in. -/
def includePaths (fs : FileSystem) (root : Path) : Logged PathSet := do
  let listed ← manifestEntries fs root
  let sources ← sourceDirectories fs root
  let all := listed.union sources
  Logged.tell (.includesCollected all.size root)
  return all

end ChapelCheck.Project
