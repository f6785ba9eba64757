/-!
# ChapelCheck.Shell.Pattern

Patterns over characters: `*` stands for any text, `?` for any character, and
brackets for one character of a set.  What is quoted stands for itself.
-/

namespace ChapelCheck.Shell

/-- A piece of a pattern. -/
inductive Glob where
  | one (c : Char)
  | any
  | many
  /-- A character in one of the ranges, or in none of them. -/
  | set (negated : Bool) (ranges : List (Char × Char))
deriving DecidableEq

/-- The ranges that a class of characters stands for. -/
def classRanges (name : List Char) : List (Char × Char) :=
  match String.ofList name with
  | "alpha" => [('a', 'z'), ('A', 'Z')]
  | "digit" => [('0', '9')]
  | "alnum" => [('a', 'z'), ('A', 'Z'), ('0', '9')]
  | "upper" => [('A', 'Z')]
  | "lower" => [('a', 'z')]
  | "space" => [(' ', ' '), ('\t', '\r')]
  | "blank" => [(' ', ' '), ('\t', '\t')]
  | "xdigit" => [('0', '9'), ('a', 'f'), ('A', 'F')]
  | "punct" => [('!', '/'), (':', '@'), ('[', Char.ofNat 0x60), ('\x7b', '~')]
  | _ => []

/-- A character of a pattern, and whether it is quoted. -/
abbrev PatternChar := Char × Bool

/-- The rest of a set, behind its first bracket: the ranges and what follows the
second bracket.  A bracket at the very start belongs to the set. -/
def readSet (bound : Nat) (isFirst : Bool) (cs : List PatternChar) :
    Option (List (Char × Char) × List PatternChar) :=
  match bound with
  | 0 => none
  | bound + 1 =>
    match cs with
    | [] => none
    | (']', false) :: rest =>
      if isFirst then (readSet bound false rest).map fun (rs, after) => ((']', ']') :: rs, after)
      else some ([], rest)
    | ('[', false) :: (':', false) :: rest =>
      let name := rest.takeWhile (·.1 ≠ ':')
      match rest.drop name.length with
      | (':', false) :: (']', false) :: after =>
        (readSet bound false after).map fun (rs, after) =>
          (classRanges (name.map (·.1)) ++ rs, after)
      | _ =>
        (readSet bound false ((':', false) :: rest)).map fun (rs, after) => (('[', '[') :: rs, after)
    | (a, _) :: ('-', false) :: (b, q) :: rest =>
      if b = ']' && !q then
        (readSet bound false (('-', false) :: (b, q) :: rest)).map fun (rs, after) =>
          ((a, a) :: rs, after)
      else (readSet bound false rest).map fun (rs, after) => ((a, b) :: rs, after)
    | (a, _) :: rest => (readSet bound false rest).map fun (rs, after) => ((a, a) :: rs, after)

/-- Reads a pattern. -/
def readPattern (bound : Nat) (cs : List PatternChar) : List Glob :=
  match bound with
  | 0 => []
  | bound + 1 =>
    match cs with
    | [] => []
    | ('*', false) :: rest => .many :: readPattern bound rest
    | ('?', false) :: rest => .any :: readPattern bound rest
    | ('[', false) :: rest =>
      let (negated, inside) := match rest with
        | ('!', false) :: inside => (true, inside)
        | ('^', false) :: inside => (true, inside)
        | inside => (false, inside)
      match readSet (inside.length + 1) true inside with
      | some (ranges, after) => .set negated ranges :: readPattern bound after
      | none => .one '[' :: readPattern bound rest
    | (c, _) :: rest => .one c :: readPattern bound rest

/-- The pattern of characters. -/
def pattern (cs : List PatternChar) : List Glob := readPattern cs.length cs

/-- Whether a piece of a pattern matches one character. -/
def Glob.fits (g : Glob) (c : Char) : Bool :=
  match g with
  | .one d => c = d
  | .any => true
  | .many => true
  | .set negated ranges => negated != ranges.any fun r => r.1 ≤ c && c ≤ r.2

/-- Whether a pattern matches a whole text. -/
def fitsAll : List Glob → List Char → Bool
  | [], cs => cs.isEmpty
  | .many :: gs, [] => fitsAll gs []
  | .many :: gs, c :: cs => fitsAll gs (c :: cs) || fitsAll (.many :: gs) cs
  | _ :: _, [] => false
  | g :: gs, c :: cs => g.fits c && fitsAll gs cs
termination_by gs cs => (cs.length, gs.length)

/-- Whether anything in a pattern stands for something else. -/
def isPattern (gs : List Glob) : Bool := gs.any fun
  | .one _ => false
  | _ => true

/-- What is left of a text when a pattern is cut off at its start. -/
def trimStart (longest : Bool) (gs : List Glob) (cs : List Char) : List Char :=
  let lengths := List.range (cs.length + 1)
  let order := if longest then lengths.reverse else lengths
  match order.find? fun n => fitsAll gs (cs.take n) with
  | some n => cs.drop n
  | none => cs

/-- What is left of a text when a pattern is cut off at its end. -/
def trimEnd (longest : Bool) (gs : List Glob) (cs : List Char) : List Char :=
  let lengths := List.range (cs.length + 1)
  let order := if longest then lengths else lengths.reverse
  match order.find? fun n => fitsAll gs (cs.drop n) with
  | some n => cs.take n
  | none => cs

end ChapelCheck.Shell
