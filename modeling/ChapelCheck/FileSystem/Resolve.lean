import ChapelCheck.FileSystem.Tree
import ChapelCheck.Path
import ChapelCheck.SystemError

/-!
# ChapelCheck.FileSystem.Resolve

From the spelling of a path to a place in a tree.  The pieces between slashes
are taken one by one from a directory: an empty piece and `.` stay, `..` goes up
(but not above the top), and a name goes to that entry.  A symbolic link on the
way is replaced by the pieces of its text; at most forty are followed for one
path.
-/

namespace ChapelCheck

namespace Tree

/-- The greatest number of octets that a name may have. -/
def longestName : Nat := 255

/-- The number of octets from which on a path is too long. -/
def pathLimit : Nat := 4096

/-- Whether a path is too long to be looked up. -/
def isTooLong (p : Path) : Bool := p.text.utf8ByteSize ≥ pathLimit

/-- How many links are followed for one path. -/
def linkLimit : Nat := 40

/-- Where a path leads. -/
inductive Place where
  /-- To something that is there. -/
  | found (place : List String)
  /-- To a name that its directory does not hold. -/
  | free (directory : List String) (name : String)
deriving DecidableEq, Repr

/-- How far a path leads without following links. -/
inductive Progress where
  | arrived (place : Place)
  /-- A link stands in the way: the directory that holds it, its text, and the
  pieces after it. -/
  | atLink (directory : List String) (target : String) (rest : List (List Char))

/-- Whether nothing but empty pieces follows. -/
def isEnd (ps : List (List Char)) : Bool := ps.all List.isEmpty

/-- Goes along pieces from a place, up to the first link.  A link at the very
end is only in the way if it is to be followed. -/
def advance (t : Tree) (follow : Bool) (place : List String) :
    List (List Char) → Except SystemError Progress
  | [] => .ok (.arrived (.found place))
  | piece :: rest =>
    match t.find? place with
    | none => .error .notFound
    | some here =>
      if !here.isDirectory then .error .notADirectory
      else
        match piece with
        | [] => advance t follow place rest
        | ['.'] => advance t follow place rest
        | ['.', '.'] => advance t follow place.dropLast rest
        | cs =>
          let name := String.ofList cs
          if name.utf8ByteSize > longestName then .error .nameTooLong
          else
            match here.entry? name with
            | none => if isEnd rest then .ok (.arrived (.free place name)) else .error .notFound
            | some (.link target) =>
              if rest.isEmpty && !follow then .ok (.arrived (.found (place ++ [name])))
              else .ok (.atLink place target rest)
            | some _ => advance t follow (place ++ [name]) rest

/-- Goes along pieces from a place, following at most `links` links. -/
def resolveFrom (t : Tree) (follow : Bool) (links : Nat) (place : List String)
    (pieces : List (List Char)) : Except SystemError Place :=
  match advance t follow place pieces with
  | .error e => .error e
  | .ok (.arrived p) => .ok p
  | .ok (.atLink base target rest) =>
    match links with
    | 0 => .error .linkLoop
    | links + 1 =>
      if target = "" then .error .notFound
      else
        let start := if (Path.mk target).isAbsolute then [] else base
        resolveFrom t follow links start (Text.pieces '/' target.toList ++ rest)

/-- Where a path leads, read from a working directory if it is relative; the
working directory may be gone. -/
def resolve (t : Tree) (working : Option (List String)) (follow : Bool) (p : Path) :
    Except SystemError Place :=
  if '\x00' ∈ p.text.toList then .error .nulInPath
  else if p.text = "" then .error .notFound
  else if isTooLong p then .error .nameTooLong
  else
    let start := if p.isAbsolute then some [] else working
    match start with
    | none => .error .notFound
    | some start => resolveFrom t follow linkLimit start (Text.pieces '/' p.text.toList)

end Tree

end ChapelCheck
