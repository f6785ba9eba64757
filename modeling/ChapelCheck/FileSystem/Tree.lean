/-!
# ChapelCheck.FileSystem.Tree

Finite directory trees.  A place in a tree is the list of names that lead to it
from the top, through directories only: symbolic links are not followed here.
-/

namespace ChapelCheck

/-- A directory with everything in it, or one thing that a directory holds. -/
inductive Tree where
  | directory (entries : List (String × Tree))
  | file (octets : List UInt8) (executable : Bool)
  | link (target : String)
  /-- A program that the machine comes with. -/
  | program (name : String)
  /-- A device that holds nothing. -/
  | device

namespace Tree

/-! ## looking -/

/-- Whether a tree is a directory. -/
def isDirectory : Tree → Bool
  | .directory _ => true
  | _ => false

/-- Whether a tree is a regular file. -/
def isFile : Tree → Bool
  | .file .. => true
  | .program _ => true
  | _ => false

/-- What a directory holds under a name. -/
def entry? (name : String) : Tree → Option Tree
  | .directory entries => entries.lookup name
  | _ => none

/-- What is at a place. -/
def find? (t : Tree) : List String → Option Tree
  | [] => some t
  | name :: names =>
    match t.entry? name with
    | none => none
    | some child => child.find? names

@[simp] theorem find?_nil (t : Tree) : t.find? [] = some t := rfl

/-! ## changing -/

/-- Entries with one name changed: what was there, if anything, is replaced by
what `change` makes of it. -/
def changeEntry (name : String) (change : Option Tree → Option Tree) :
    List (String × Tree) → List (String × Tree)
  | [] => ((change none).map fun t => (name, t)).toList
  | (n, t) :: entries =>
    if n = name then ((change (some t)).map fun t => (name, t)).toList ++ entries
    else (n, t) :: changeEntry name change entries

/-- A tree with one place changed.  The directories that lead to the place must
be there; else nothing changes. -/
def change (f : Option Tree → Option Tree) : List String → Tree → Tree
  | [], t => (f (some t)).getD t
  | [name], .directory entries => .directory (changeEntry name f entries)
  | name :: names, .directory entries =>
    .directory (changeEntry name (fun child => child.map (change f names)) entries)
  | _, t => t

/-- A tree with something put at a place. -/
def put (t : Tree) (place : List String) (new : Tree) : Tree := t.change (fun _ => some new) place

/-- A tree without what was at a place. -/
def erase (t : Tree) (place : List String) : Tree := t.change (fun _ => none) place

end Tree

end ChapelCheck
