import ChapelCheck.Text.Split
import ChapelCheck.Text.Quoted

/-!
# ChapelCheck.Path

Paths of the file system, in the exact spelling they were given, and what they
mean: a list of components.

```
"/p//src/./Main.chpl/"   root, p, src, Main.chpl
"./a/../b"               ., a, .., b
```

Repeated separators, a `.` that is not at the start of a relative path and a
trailing separator say nothing.  Two paths mean the same when their components
agree (`Same`), a path lies under another when the components of the second
start those of the first (`startsWith`), and paths are ordered by their
components (`key`).  The spelling still matters to `join`, `parent?` and every
message, so it is kept.
-/

namespace ChapelCheck

/-- A path, as it is spelled. -/
structure Path where
  text : String
deriving DecidableEq, Inhabited, Repr

namespace Path

/-! ## components -/

/-- One component of a path. -/
inductive Component where
  /-- The root directory, at the start of an absolute path. -/
  | root
  /-- A `.` at the start of a relative path. -/
  | here
  /-- A `..`, wherever it stands. -/
  | up
  /-- A name. -/
  | name (text : String)
deriving DecidableEq, Repr

/-- The spelling of a component. -/
def Component.text : Component → String
  | .root => "/"
  | .here => "."
  | .up => ".."
  | .name s => s

/-- How a path starts, before the pieces that separators divide. -/
inductive Start where
  | root
  | here
  | bare
deriving DecidableEq, Repr

/-- The spelling of a start. -/
def Start.chars : Start → List Char
  | .root => ['/']
  | .here => ['.']
  | .bare => []

/-- The components a start stands for. -/
def Start.components : Start → List Component
  | .root => [.root]
  | .here => [.here]
  | .bare => []

/-- Takes the start off a path's text. -/
def splitStart : List Char → Start × List Char
  | '/' :: cs => (.root, cs)
  | ['.'] => (.here, [])
  | '.' :: '/' :: cs => (.here, '/' :: cs)
  | cs => (.bare, cs)

/-- The start of a path. -/
def start (p : Path) : Start := (splitStart p.text.toList).1

/-- The pieces of a path after its start, the empty ones included. -/
def pieces (p : Path) : List (List Char) := Text.pieces '/' (splitStart p.text.toList).2

/-- The component that a piece stands for; an empty piece and a `.` stand for
none. -/
def pieceComponent : List Char → Option Component
  | [] => none
  | ['.'] => none
  | ['.', '.'] => some .up
  | cs => some (.name (String.ofList cs))

/-- The components of a path. -/
def components (p : Path) : List Component :=
  p.start.components ++ p.pieces.filterMap pieceComponent

/-- Whether a path starts at the root directory. -/
def isAbsolute (p : Path) : Bool := p.start = .root

/-- Two paths mean the same when their components agree. -/
def Same (p q : Path) : Prop := p.components = q.components

instance (p q : Path) : Decidable (Same p q) :=
  inferInstanceAs (Decidable (p.components = q.components))

theorem Same.refl (p : Path) : Same p p := rfl

theorem Same.symm {p q : Path} (h : Same p q) : Same q p := Eq.symm h

theorem Same.trans {p q r : Path} (h : Same p q) (h' : Same q r) : Same p r := Eq.trans h h'

/-- Whether a path is another one or lies under it. -/
def startsWith (p base : Path) : Bool := base.components.isPrefixOf p.components

/-! ## order -/

/-- The order of components: the root, then `.`, then `..`, then names by
their code points. -/
def Component.key : Component → List Nat
  | .root => [0]
  | .here => [1]
  | .up => [2]
  | .name s => 3 :: s.toList.map Char.toNat

/-- Paths are ordered by the keys of their components, one by one; a path
stands before those that extend it. -/
def key (p : Path) : List (List Nat) := p.components.map Component.key

/-! ## building paths -/

/-- Another path, read from this one: an absolute path stands for itself, and
any other is written behind a separator. -/
def join (p q : Path) : Path :=
  if q.isAbsolute then q
  else if p.text = "" ∨ p.text.toList.getLast? = some '/' then ⟨p.text ++ q.text⟩
  else ⟨p.text ++ "/" ++ q.text⟩

/-- A name in a directory. -/
def child (p : Path) (name : String) : Path := p.join ⟨name⟩

/-- The plain spelling of components. -/
def ofComponents (cs : List Component) : Path :=
  cs.foldl (fun p c => p.join ⟨c.text⟩) ⟨""⟩

/-- A path less its `.` components, in plain spelling. -/
def plain (p : Path) : Path := ofComponents (p.components.filter (· ≠ .here))

/-! ## ancestors -/

/-- A path from its start and its pieces. -/
def ofPieces (s : Start) (ps : List (List Char)) : Path :=
  ⟨String.ofList (s.chars ++ Text.joinPieces '/' ps)⟩

/-- The directories that a start alone leads through. -/
def Start.lineage : Start → List Path
  | .root => [⟨"/"⟩]
  | .here => [⟨"."⟩, ⟨""⟩]
  | .bare => [⟨""⟩]

/-- The paths that end at each piece that is a component, from the last one
on; the pieces are given from the last to the first. -/
def lineageOf (s : Start) : List (List Char) → List Path
  | [] => s.lineage
  | piece :: before =>
    match pieceComponent piece with
    | none => lineageOf s before
    | some _ => ofPieces s (piece :: before).reverse :: lineageOf s before

/-- A path without its trailing separators, its parent, the parent of that,
and so on. -/
def lineage (p : Path) : List Path := lineageOf p.start p.pieces.reverse

/-- The directories above a path, the nearest one first. -/
def ancestors (p : Path) : List Path := p.lineage.tail

/-- The path less its last component, if it has one other than the root. -/
def parent? (p : Path) : Option Path := p.ancestors.head?

/-! ## names -/

/-- The last component, if it is a name. -/
def fileName? (p : Path) : Option String :=
  match p.components.getLast? with
  | some (.name s) => some s
  | _ => none

/-- The text after the last dot of a name.  A name that only starts with a
dot, and one without dots, has no extension. -/
def extensionOf (name : List Char) : Option (List Char) :=
  match Text.cut '.' name.reverse with
  | (_, none) => none
  | (_, some []) => none
  | (after, some _) => some after.reverse

/-- The extension of a path's last name. -/
def extension? (p : Path) : Option String :=
  p.fileName?.bind fun s => (extensionOf s.toList).map String.ofList

/-! ## taking a relative path from a directory -/

/-- One component more of a path whose dots are resolved by their spelling
alone: `.` says nothing, `..` goes back to the parent, if there is one, and
anything else is joined. -/
def anchorStep (anchored : Path) : Component → Path
  | .here => anchored
  | .up => anchored.parent?.getD anchored
  | c => anchored.join ⟨c.text⟩

/-- A relative path taken from a directory, with `.` and `..` resolved. -/
def anchor (target directory : Path) : Path :=
  (directory.join target).components.foldl anchorStep ⟨""⟩

/-- A path in quotes. -/
def quoted (p : Path) : String := Text.quoted p.text

end Path

end ChapelCheck
