import ChapelCheck.Text.Hexadecimal
import ChapelCheck.Text.Split

/-!
# ChapelCheck.Text.Ranges

Sets of characters as ranges of code points.  A table of them is written as
text, so that a property with hundreds of ranges stays readable: code points in
hexadecimal, a hyphen between the ends of a range, blanks and line ends between
ranges.

```
300-36F 483-489 591-5BD 5BF
```
-/

namespace ChapelCheck.Text

/-- The words of a table. -/
def tableWords (table : String) : List (List Char) :=
  (pieces ' ' (table.toList.map fun c => if c = '\n' then ' ' else c)).filter (!·.isEmpty)

/-- A code point of a table. -/
def readCode (cs : List Char) : Nat := (readBased? 16 cs).getD 0

/-- A range of a table; a single code point is a range of one. -/
def readRange (cs : List Char) : Nat × Nat :=
  match cut '-' cs with
  | (first, some last) => (readCode first, readCode last)
  | (only, none) => (readCode only, readCode only)

/-- The ranges of a table. -/
def readRanges (table : String) : List (Nat × Nat) := (tableWords table).map readRange

/-- Whether one of the ranges holds a character. -/
def inRanges (ranges : List (Nat × Nat)) (c : Char) : Bool :=
  ranges.any fun r => r.1 ≤ c.toNat && c.toNat ≤ r.2

end ChapelCheck.Text
