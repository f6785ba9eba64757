import ChapelCheck.FileSystem

/-!
# ChapelCheck.FileSystem.Change

Changes to a file system: making directories, files and links, removing,
renaming, and going to another working directory.  A change that the system
refuses says why and leaves everything as it is.
-/

namespace ChapelCheck.FileSystem

/-- Makes one directory. -/
def makeDirectory (fs : FileSystem) (p : Path) : Except SystemError FileSystem :=
  match fs.resolveLink p with
  | .error e => .error e
  | .ok (.found _) => .error .alreadyExists
  | .ok (.free directory name) =>
    .ok { fs with tree := fs.tree.put (directory ++ [name]) (.directory []) }

/-- Makes a directory and the ones that lead to it, which are given from the
nearest to the farthest.  What is a directory already is left as it is. -/
def makeLineage (fs : FileSystem) : List Path → Except SystemError FileSystem
  | [] => .ok fs
  | p :: above =>
    if p.text = "" then .ok fs
    else
      match fs.makeDirectory p with
      | .ok made => .ok made
      | .error .notFound =>
        match makeLineage fs above with
        | .error e => .error e
        | .ok made =>
          match made.makeDirectory p with
          | .ok made => .ok made
          | .error e => if made.isDirectory p then .ok made else .error e
      | .error e => if fs.isDirectory p then .ok fs else .error e

/-- Makes a directory, and the ones that lead to it. -/
def makeDirectories (fs : FileSystem) (p : Path) : Except SystemError FileSystem :=
  fs.makeLineage (p :: p.ancestors)

/-- Makes the directories that lead to a path. -/
def makeParents (fs : FileSystem) (p : Path) : Except SystemError FileSystem :=
  match p.parent? with
  | none => .ok fs
  | some directory => fs.makeDirectories directory

/-- Writes a file.  A file that can be run stays so. -/
def writeFile (fs : FileSystem) (p : Path) (octets : List UInt8) (executable : Bool) :
    Except SystemError FileSystem :=
  match fs.resolve p with
  | .error e => .error e
  | .ok (.free directory name) =>
    .ok { fs with tree := fs.tree.put (directory ++ [name]) (.file octets executable) }
  | .ok (.found place) =>
    match fs.tree.find? place with
    | some (.file _ before) =>
      .ok { fs with tree := fs.tree.put place (.file octets (executable || before)) }
    | some (.directory _) => .error .isADirectory
    | _ => .error .denied

/-- Adds octets at the end of a file, which is made if it is not there. -/
def appendFile (fs : FileSystem) (p : Path) (octets : List UInt8) :
    Except SystemError FileSystem :=
  match fs.readOctets p with
  | .ok before => fs.writeFile p (before ++ octets) false
  | .error .notFound => fs.writeFile p octets false
  | .error e => .error e

/-- Makes a symbolic link. -/
def makeLink (fs : FileSystem) (p : Path) (target : String) : Except SystemError FileSystem :=
  match fs.resolveLink p with
  | .error e => .error e
  | .ok (.found _) => .error .alreadyExists
  | .ok (.free directory name) =>
    .ok { fs with tree := fs.tree.put (directory ++ [name]) (.link target) }

/-- The working directory after what was at a place has been moved, or
removed. -/
def moveWorking (old : List String) (new : Option (List String)) (working : Option (List String)) :
    Option (List String) :=
  match working with
  | none => none
  | some w => if old.isPrefixOf w then new.map (· ++ w.drop old.length) else some w

/-- Removes a file, a link, or a directory with everything in it. -/
def remove (fs : FileSystem) (p : Path) : Except SystemError FileSystem :=
  match fs.resolveLink p with
  | .error e => .error e
  | .ok (.free ..) => .error .notFound
  | .ok (.found []) => .error .denied
  | .ok (.found place) =>
    .ok ⟨fs.tree.erase place, moveWorking place none fs.working⟩

/-- Renames something; a file that has the new name already gives way, and so
does an empty directory. -/
def rename (fs : FileSystem) (old new : Path) : Except SystemError FileSystem :=
  match fs.resolveLink old, fs.resolveLink new with
  | .error e, _ => .error e
  | .ok (.free ..), _ => .error .notFound
  | _, .error e => .error e
  | .ok (.found source), .ok target =>
    let destination := match target with
      | .found place => place
      | .free directory name => directory ++ [name]
    match fs.tree.find? source with
    | none => .error .notFound
    | some t =>
      if source = destination then .ok fs
      else
        .ok ⟨(fs.tree.erase source).put destination t,
          moveWorking source (some destination) fs.working⟩

/-- Goes to another working directory. -/
def changeDirectory (fs : FileSystem) (p : Path) : Except SystemError FileSystem :=
  match fs.resolve p with
  | .error e => .error e
  | .ok (.free ..) => .error .notFound
  | .ok (.found place) =>
    match fs.tree.find? place with
    | some (.directory _) => .ok { fs with working := some place }
    | _ => .error .notADirectory

/-- Directories of one name, each inside the last. -/
def nest (name : String) : Nat → Tree
  | 0 => .directory []
  | count + 1 => .directory [(name, nest name count)]

/-- Puts trees of directories together; what one of them holds already stays. -/
def graft (name : String) : Nat → Option Tree → Option Tree
  | 0, none => some (.directory [])
  | 0, t => t
  | count + 1, some (.directory entries) =>
    some (.directory (Tree.changeEntry name (graft name count) entries))
  | count + 1, none => some (nest name (count + 1))
  | _, t => t

/-- Makes a directory and `count` directories of one name below it, each inside
the last, however long their path gets. -/
def makeNested (fs : FileSystem) (p : Path) (name : String) (count : Nat) :
    Except SystemError FileSystem :=
  match fs.makeDirectories p with
  | .error e => .error e
  | .ok made =>
    match made.resolve p with
    | .error e => .error e
    | .ok (.free ..) => .error .notFound
    | .ok (.found place) => .ok { made with tree := made.tree.change (graft name count) place }

end ChapelCheck.FileSystem
