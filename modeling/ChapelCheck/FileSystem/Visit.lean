import ChapelCheck.FileSystem

/-!
# ChapelCheck.FileSystem.Visit

Everything below a directory.  The start may be a link to a directory; below
it links are entries like others and are not followed.  A directory whose path
is too long to be read is visited, but what it holds is not.
-/

namespace ChapelCheck

/-- What a visit meets. -/
inductive Visit where
  /-- Something that is there, at a path. -/
  | entry (path : Path) (found : Tree)
  | unreadable (path : Path) (cause : SystemError)

namespace Tree

mutual

/-- Visits a tree whose top has a given path. -/
def visit (path : Path) : Tree → List Visit
  | .directory entries =>
    if isTooLong path then
      [.entry path (.directory entries), .unreadable path .nameTooLong]
    else .entry path (.directory entries) :: visitEntries path entries
  | t => [.entry path t]

/-- Visits the entries of a directory. -/
def visitEntries (directory : Path) : List (String × Tree) → List Visit
  | [] => []
  | (name, t) :: entries => visit (directory.child name) t ++ visitEntries directory entries

end

end Tree

namespace FileSystem

/-- Visits everything at and below a path. -/
def visit (fs : FileSystem) (start : Path) : List Visit :=
  match fs.get start with
  | .ok t => t.visit start
  | .error cause => [.unreadable start cause]

/-- Whether something that was visited is a file, or a link that leads to one.
No path that is too long leads anywhere. -/
def leadsToFile (fs : FileSystem) (p : Path) : Tree → Bool
  | .directory _ => false
  | .link _ => fs.isFile p
  | .file .. => !Tree.isTooLong p
  | .program _ => !Tree.isTooLong p
  | .device => false

end FileSystem

end ChapelCheck
