/-!
# ChapelCheck.Text.Decimal

Natural numbers in decimal.  Reading takes one or more ASCII digits, with any
number of zeros in front, and optionally a single plus sign before them;
writing gives the digits without a leading zero.
-/

namespace ChapelCheck.Text.Decimal

/-- The value of an ASCII digit. -/
def digit? (c : Char) : Option Nat :=
  if '0'.toNat ≤ c.toNat ∧ c.toNat ≤ '9'.toNat then some (c.toNat - '0'.toNat) else none

/-- The number that `n`, followed by these digits, stands for. -/
def readOnto (n : Nat) : List Char → Option Nat
  | [] => some n
  | c :: cs => (digit? c).bind fun d => readOnto (10 * n + d) cs

/-- One or more digits. -/
def readDigits? : List Char → Option Nat
  | [] => none
  | c :: cs => readOnto 0 (c :: cs)

/-- One or more digits, after at most one plus sign. -/
def read? : List Char → Option Nat
  | '+' :: cs => readDigits? cs
  | cs => readDigits? cs

/-- The digits of a number, without leading zeros. -/
def write (n : Nat) : List Char := Nat.toDigits 10 n

/-- `write` as a string. -/
def text (n : Nat) : String := String.ofList (write n)

/-- The decimal text of an integer. -/
def intText : Int → String
  | .ofNat n => text n
  | .negSucc n => "-" ++ text (n + 1)

end ChapelCheck.Text.Decimal
