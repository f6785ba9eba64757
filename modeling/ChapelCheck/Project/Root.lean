import ChapelCheck.Logged

/-!
# ChapelCheck.Project.Root

The root of the project that a file belongs to: the nearest directory above the
file that holds a manifest.  A repository is a boundary; the search does not
leave a directory that holds a `.git` but no manifest.
-/

namespace ChapelCheck.Project

/-- The file that lists directories to search modules in. -/
def manifestName : String := ".chapel_lsp"

/-- The file that describes a package. -/
def packageName : String := "Mason.toml"

/-- The directory that makes a repository. -/
def repositoryName : String := ".git"

/-- What a directory is to the search. -/
inductive Marker where
  /-- It holds one of the two manifests. -/
  | root
  /-- It holds a repository and no manifest. -/
  | boundary
  | plain
deriving DecidableEq, Repr

/-- What a directory is to the search, given which paths exist. -/
def marker (present : Path → Bool) (directory : Path) : Marker :=
  if present (directory.child manifestName) || present (directory.child packageName) then .root
  else if present (directory.child repositoryName) then .boundary
  else .plain

/-- The first root among directories, if no boundary stands before it. -/
def searchIn (present : Path → Bool) : List Path → Logged (Option Path)
  | [] => return none
  | directory :: rest =>
    match marker present directory with
    | .root => do
      Logged.tell (.rootFound directory)
      return some directory
    | .boundary => do
      Logged.tell (.boundaryReached directory)
      return none
    | .plain => searchIn present rest

/-- The root above a file. -/
def search (present : Path → Bool) (target : Path) : Logged (Option Path) :=
  searchIn present target.ancestors

/-- The root of the project that a file belongs to.  A root that is known
already is taken as it is, and a relative file is read from the working
directory. -/
def resolveRoot (present : Path → Bool) (working : Except SystemError Path) (target : Path)
    (known : Option Path) : Logged (Option Path) :=
  match known with
  | some root => do
    Logged.tell (.rootKnown root)
    return some root
  | none =>
    if target.isAbsolute then search present target
    else
      match working with
      | .ok directory => search present (target.anchor directory)
      | .error cause => do
        Logged.tell (.nowhere target cause)
        return none

end ChapelCheck.Project
