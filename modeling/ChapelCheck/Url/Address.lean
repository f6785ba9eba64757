import ChapelCheck.Text.Decimal
import ChapelCheck.Text.Hexadecimal
import ChapelCheck.Text.Split

/-!
# ChapelCheck.Url.Address

Hosts given by number.

An address of four octets is written as up to four numbers with dots between
them, where the last one stands for all octets that are left.  An address of
eight groups of sixteen bits is written in hexadecimal with colons between the
groups; `::` stands for groups of zeros, and the last two groups may be written
as four octets.
-/

namespace ChapelCheck.Url

open Text

/-! ## four octets -/

/-- One number of an address: hexadecimal after `0x`, octal after another zero,
and decimal otherwise. -/
def addressNumber? : List Char → Option Nat
  | [] => none
  | '0' :: 'x' :: ds => readBased? 16 ds
  | '0' :: 'X' :: ds => readBased? 16 ds
  | '0' :: d :: ds => readBased? 8 (d :: ds)
  | ds => readBased? 10 ds

/-- The parts of a host between dots; a dot at the end says nothing. -/
def hostParts (cs : List Char) : List (List Char) :=
  let ps := pieces '.' cs
  if ps.length > 1 ∧ ps.getLast? = some [] then ps.dropLast else ps

/-- Whether a host is meant as an address: its last part is a number. -/
def looksLikeAddress (cs : List Char) : Bool :=
  match (hostParts cs).getLast? with
  | none => false
  | some [] => false
  | some part => part.all Char.isDigit || (addressNumber? part).isSome

/-- The four numbers of an address, as text.  The last part may stand for
several of them. -/
def address? (cs : List Char) : Option (List Char) := do
  let parts := hostParts cs
  if parts.length > 4 then none
  let numbers ← parts.mapM addressNumber?
  let last ← numbers.getLast?
  let front := numbers.dropLast
  if front.any (· > 255) then none
  let unit := Nat.pow 256 (5 - numbers.length)
  if last ≥ unit then none
  let value := front.foldl (fun v n => 256 * v + n) 0 * unit + last
  let octets := [value / 16777216, value / 65536 % 256, value / 256 % 256, value % 256]
  return joinPieces '.' (octets.map Decimal.write)

/-! ## eight groups -/

/-- A group: one to four hexadecimal digits. -/
def group? (cs : List Char) : Option Nat :=
  if 0 < cs.length ∧ cs.length ≤ 4 then readBased? 16 cs else none

/-- An octet in decimal, without a zero in front. -/
def octet? (cs : List Char) : Option Nat :=
  match cs with
  | '0' :: _ :: _ => none
  | _ => (Decimal.readDigits? cs).filter (· ≤ 255)

/-- Two groups written as four octets. -/
def dottedGroups? (cs : List Char) : Option (List Nat) :=
  match (pieces '.' cs).mapM octet? with
  | some [a, b, c, d] => some [256 * a + b, 256 * c + d]
  | _ => none

/-- The groups that texts between colons stand for; the last text may be four
octets if `mayEndDotted`. -/
def readGroups? (mayEndDotted : Bool) : List (List Char) → Option (List Nat)
  | [] => some []
  | [cs] => if mayEndDotted && cs.contains '.' then dottedGroups? cs else (group? cs).map ([·])
  | cs :: ds :: rest => (group? cs).bind fun n => (readGroups? mayEndDotted (ds :: rest)).map (n :: ·)

/-- The texts between the colons of one side of `::`. -/
def sideGroups? (mayEndDotted : Bool) (cs : List Char) : Option (List Nat) :=
  if cs.isEmpty then some [] else readGroups? mayEndDotted (pieces ':' cs)

/-- Cuts a text at its first `::`. -/
def cutZeros : List Char → Option (List Char × List Char)
  | [] => none
  | ':' :: ':' :: cs => some ([], cs)
  | c :: cs => (cutZeros cs).map fun (before, after) => (c :: before, after)

/-- The eight groups of an address. -/
def groups? (cs : List Char) : Option (List Nat) :=
  match cutZeros cs with
  | none => (sideGroups? true cs).filter (·.length = 8)
  | some (before, after) => do
    let front ← sideGroups? false before
    let back ← sideGroups? true after
    if front.length + back.length > 7 then none
    return front ++ List.replicate (8 - front.length - back.length) 0 ++ back

/-- How many zeros a list starts with. -/
def zerosAhead (groups : List Nat) : Nat := (groups.takeWhile (· = 0)).length

/-- The length of the longest run of zeros. -/
def longestZeros : List Nat → Nat
  | [] => 0
  | g :: gs => max (zerosAhead (g :: gs)) (longestZeros gs)

/-- Groups with colons between them. -/
def groupsText (groups : List Nat) : List Char := joinPieces ':' (groups.map hexDigits)

/-- Groups with the first run of `n` zeros left out. -/
def shortened (n : Nat) (before : List Nat) : List Nat → List Char
  | [] => groupsText before.reverse
  | g :: gs =>
    if zerosAhead (g :: gs) = n then
      groupsText before.reverse ++ [':', ':'] ++ groupsText ((g :: gs).drop n)
    else shortened n (g :: before) gs

/-- The text of an address: lower case, with the first of the longest runs of
two or more zeros left out. -/
def writeGroups (groups : List Nat) : List Char :=
  let n := longestZeros groups
  if n < 2 then groupsText groups else shortened n [] groups

end ChapelCheck.Url
