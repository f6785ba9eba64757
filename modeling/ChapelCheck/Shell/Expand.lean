import ChapelCheck.Shell.Pattern
import ChapelCheck.Shell.State

/-!
# ChapelCheck.Shell.Expand

From expanded words to fields.  Values that are not quoted are divided at
separators, `"$@"` is one field per argument, and a field that is a pattern
stands for the paths that match it.
-/

namespace ChapelCheck.Shell

open Text

/-! ## atoms -/

/-- What a word is made of after expansion. -/
inductive Atom where
  /-- A character; a separator that `divides` ends a field. -/
  | char (c : Char) (quoted divides : Bool)
  /-- Something quoted stands here, so that the field counts even if empty. -/
  | mark
  /-- The field ends here. -/
  | stop

/-- The characters of a value. -/
def valueAtoms (quoted : Bool) (cs : List Char) : List Atom :=
  let inner := cs.map fun c => Atom.char c quoted !quoted
  if quoted then .mark :: inner else inner

/-- The characters of a text in a script. -/
def textAtoms (quoted : Bool) (cs : List Char) : List Atom :=
  let inner := cs.map fun c => Atom.char c quoted false
  if quoted then .mark :: inner else inner

/-- One field per argument. -/
def argumentAtoms (quoted : Bool) : List (List Char) → List Atom
  | [] => []
  | [a] => valueAtoms quoted a
  | a :: b :: rest => valueAtoms quoted a ++ .stop :: argumentAtoms quoted (b :: rest)

/-- The text of atoms that are not divided. -/
def wholeText (atoms : List Atom) : List Char :=
  atoms.filterMap fun
    | .char c _ _ => some c
    | .mark => none
    | .stop => some ' '

/-- The characters of atoms as a pattern. -/
def patternChars (atoms : List Atom) : List PatternChar :=
  atoms.filterMap fun
    | .char c quoted _ => some (c, quoted)
    | .mark => none
    | .stop => some (' ', true)

/-! ## fields -/

/-- Fields under way: the one that has begun, its last character first, and whether
a blank has just ended one, so that another separator behind it ends none. -/
structure Dividing where
  field : Option (List PatternChar)
  absorbs : Bool

/-- The fields of atoms, given the separators. -/
def divide (separators : List Char) (d : Dividing) : List Atom → List (List PatternChar)
  | [] => (d.field.map List.reverse).toList
  | .mark :: rest => divide separators ⟨some (d.field.getD []), false⟩ rest
  | .stop :: rest => (d.field.map List.reverse).toList ++ divide separators ⟨none, false⟩ rest
  | .char c quoted divides :: rest =>
    if divides && c ∈ separators then
      if c = ' ' || c = '\t' || c = '\n' then
        match d.field with
        | some f => f.reverse :: divide separators ⟨none, true⟩ rest
        | none => divide separators d rest
      else
        match d.field with
        | some f => f.reverse :: divide separators ⟨none, false⟩ rest
        | none =>
          if d.absorbs then divide separators ⟨none, false⟩ rest
          else [] :: divide separators ⟨none, false⟩ rest
    else divide separators ⟨some ((c, quoted) :: d.field.getD []), false⟩ rest

/-! ## paths -/

/-- Whether a text stands before another, or is the same, in the order of its
characters. -/
def isBefore : List Char → List Char → Bool
  | [], _ => true
  | _ :: _, [] => false
  | a :: as, b :: bs => if a = b then isBefore as bs else a.toNat < b.toNat

/-- The names in a directory, in order. -/
def namesIn (fs : FileSystem) (directory : List Char) : List (List Char) :=
  let path := if directory.isEmpty then ⟨"."⟩ else pathOfChars directory
  match fs.get path with
  | .ok (.directory entries) =>
    ((entries.map fun e => charsOfText e.1).mergeSort isBefore)
  | _ => []

/-- The names that match a piece of a pattern; one with a dot in front only
matches if the pattern has it. -/
def matching (fs : FileSystem) (directory : List Char) (gs : List Glob) : List (List Char) :=
  let names := namesIn fs directory
  let names := if gs.head? = some (.one '.') then ['.'] :: ['.', '.'] :: names
    else names.filter fun n => n.head? ≠ some '.'
  names.filter (fitsAll gs)

/-- The paths that pieces of a pattern match below a directory, which is given as
it is written. -/
def paths (fs : FileSystem) (directory : List Char) : List (List PatternChar) → List (List Char)
  | [] => []
  | [piece] =>
    let gs := pattern piece
    if isPattern gs then (matching fs directory gs).map (directory ++ ·)
    else
      let path := directory ++ piece.map (·.1)
      let found := if piece.isEmpty then fs.isDirectory (pathOfChars directory)
        else match fs.resolveLink (pathOfChars path) with
          | .ok (.found _) => true
          | _ => false
      if found then [path] else []
  | piece :: rest =>
    let gs := pattern piece
    if isPattern gs then
      ((matching fs directory gs).filter fun n => fs.isDirectory (pathOfChars (directory ++ n))).flatMap
        fun n => paths fs (directory ++ n ++ ['/']) rest
    else paths fs (directory ++ piece.map (·.1) ++ ['/']) rest

/-- The pieces of a pattern between slashes. -/
def patternPieces : List PatternChar → List (List PatternChar)
  | [] => [[]]
  | (c, q) :: cs =>
    if c = '/' then [] :: patternPieces cs
    else
      match patternPieces cs with
      | [] => [[(c, q)]]
      | p :: ps => ((c, q) :: p) :: ps

/-- The fields that one field stands for: the paths that it matches, or itself. -/
def globbed (s : State) (field : List PatternChar) : List (List Char) :=
  if s.process.has 'f' || !isPattern (pattern field) then [field.map (·.1)]
  else
    match paths s.files [] (patternPieces field) with
    | [] => [field.map (·.1)]
    | found => found

/-- The fields of a word. -/
def fieldsOf (s : State) (atoms : List Atom) : List (List Char) :=
  (divide s.process.separators ⟨none, false⟩ atoms).flatMap (globbed s)

/-! ## lines that are read -/

/-- A line with its backslashes taken off: each character, and whether it had
one. -/
def readChars : List Char → List PatternChar
  | [] => []
  | ['\\'] => []
  | '\\' :: c :: cs => (c, true) :: readChars cs
  | c :: cs => (c, false) :: readChars cs

/-- Drops blanks that divide at the end of a text. -/
def dropTrailing (blanks : List Char) (cs : List PatternChar) : List PatternChar :=
  (cs.reverse.dropWhile fun (c, q) => !q && c ∈ blanks).reverse

/-- Divides a line into `count` texts; the last one takes the rest. -/
def divideLine (separators : List Char) (count : Nat) (cs : List PatternChar) : List (List Char) :=
  let blanks := separators.filter fun c => c = ' ' || c = '\t' || c = '\n'
  let isBlank (x : PatternChar) : Bool := !x.2 && x.1 ∈ blanks
  let isEnd (x : PatternChar) : Bool := !x.2 && x.1 ∈ separators
  let cs := cs.dropWhile isBlank
  match count with
  | 0 => []
  | 1 =>
    let field := cs.takeWhile (!isEnd ·)
    let rest := (cs.dropWhile (!isEnd ·)).dropWhile isBlank
    let only := match rest with
      | [] => field
      | x :: after => if isEnd x && (after.dropWhile isBlank).isEmpty then field
          else dropTrailing blanks cs
    [only.map (·.1)]
  | count + 1 =>
    let field := cs.takeWhile (!isEnd ·)
    let rest := (cs.dropWhile (!isEnd ·)).dropWhile isBlank
    let rest := match rest with
      | x :: after => if isEnd x then after else x :: after
      | [] => []
    field.map (·.1) :: divideLine separators count rest

end ChapelCheck.Shell
