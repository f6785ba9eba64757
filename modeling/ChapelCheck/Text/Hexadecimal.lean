/-!
# ChapelCheck.Text.Hexadecimal

Natural numbers in hexadecimal.  Digits are read in either case and written in
lower case.
-/

namespace ChapelCheck.Text

/-- The lower-case hexadecimal digits of a number. -/
def hexDigits (n : Nat) : List Char := Nat.toDigits 16 n

/-- The value of a hexadecimal digit. -/
def hexValue? (c : Char) : Option Nat :=
  let n := c.toNat
  if 0x30 ≤ n ∧ n ≤ 0x39 then some (n - 0x30)
  else if 0x41 ≤ n ∧ n ≤ 0x46 then some (n - 0x41 + 10)
  else if 0x61 ≤ n ∧ n ≤ 0x66 then some (n - 0x61 + 10)
  else none

/-- The number that digits below a base stand for; no digits are zero. -/
def readBased? (base : Nat) (ds : List Char) : Option Nat :=
  ds.foldl (fun n c => n.bind fun n =>
    (hexValue? c).bind fun d => if d < base then some (base * n + d) else none) (some 0)

end ChapelCheck.Text
