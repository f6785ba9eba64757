import ChapelCheck.FileSystem.Resolve
import ChapelCheck.Text.Utf8

/-!
# ChapelCheck.FileSystem

A directory tree as a process sees it: with a working directory, from which
relative paths are read, and with every path resolved through symbolic links.
-/

namespace ChapelCheck

/-- A tree and the place of the working directory in it, unless that directory
has been removed. -/
structure FileSystem where
  tree : Tree
  working : Option (List String)

namespace FileSystem

/-- Where a path leads when links are followed. -/
def resolve (fs : FileSystem) (p : Path) : Except SystemError Tree.Place :=
  fs.tree.resolve fs.working true p

/-- Where a path leads when a link at its end is not followed. -/
def resolveLink (fs : FileSystem) (p : Path) : Except SystemError Tree.Place :=
  fs.tree.resolve fs.working false p

/-- What a path leads to. -/
def get (fs : FileSystem) (p : Path) : Except SystemError Tree :=
  match fs.resolve p with
  | .error e => .error e
  | .ok (.free ..) => .error .notFound
  | .ok (.found place) =>
    match fs.tree.find? place with
    | none => .error .notFound
    | some t => .ok t

/-- Whether a path leads to anything. -/
def isPresent (fs : FileSystem) (p : Path) : Bool := (fs.get p).isOk

/-- Whether a path leads to a directory. -/
def isDirectory (fs : FileSystem) (p : Path) : Bool :=
  match fs.get p with
  | .ok t => t.isDirectory
  | .error _ => false

/-- Whether a path leads to a regular file. -/
def isFile (fs : FileSystem) (p : Path) : Bool :=
  match fs.get p with
  | .ok t => t.isFile
  | .error _ => false

/-- The octets of a file. -/
def readOctets (fs : FileSystem) (p : Path) : Except SystemError (List UInt8) :=
  match fs.get p with
  | .error e => .error e
  | .ok (.file octets _) => .ok octets
  | .ok (.directory _) => .error .isADirectory
  | .ok _ => .ok []

/-- The text of a file. -/
def readText (fs : FileSystem) (p : Path) : Except SystemError String :=
  match fs.readOctets p with
  | .error e => .error e
  | .ok octets =>
    match Text.Utf8.decode? octets with
    | some s => .ok s
    | none => .error .notText

/-- The path from the top to a place. -/
def pathOf (place : List String) : Path :=
  ⟨"/" ++ String.intercalate "/" place⟩

/-- The path of the working directory. -/
def workingDirectory (fs : FileSystem) : Except SystemError Path :=
  match fs.working with
  | some place => .ok (pathOf place)
  | none => .error .notFound

end FileSystem

end ChapelCheck
