import ChapelCheck.Text.Decimal
import ChapelCheck.Text.Hexadecimal

/-!
# ChapelCheck.Shell.Number

Whole numbers as the shell reads them: 64 bits wide, hexadecimal after `0x`,
octal after another zero, with blanks and a sign in front.  What is too large
becomes the largest number there is.
-/

namespace ChapelCheck.Shell

open Text

/-- The largest number. -/
def greatest : Int := 9223372036854775807

/-- The smallest number. -/
def least : Int := -9223372036854775808

/-- A number as 64 bits hold it. -/
def wrap (n : Int) : Int := (n - least) % 18446744073709551616 + least

/-- A number brought into the range. -/
def saturate (n : Int) : Int := if n > greatest then greatest else if n < least then least else n

/-- Whether a character is a blank before a number. -/
def isSpace (c : Char) : Bool := c = ' ' || (9 ≤ c.toNat && c.toNat ≤ 13)

/-- Digits below a base at the start of a text, and what follows them. -/
def spanDigits (base : Nat) (cs : List Char) : List Char × List Char :=
  let isDigit (c : Char) : Bool := (hexValue? c).any (· < base)
  (cs.takeWhile isDigit, cs.dropWhile isDigit)

/-- The number without a sign at the start of a text, and what follows it. -/
def readUnsigned? (cs : List Char) : Option (Nat × List Char) :=
  let based (base : Nat) (cs : List Char) : Option (Nat × List Char) :=
    let (digits, rest) := spanDigits base cs
    if digits.isEmpty then none else (readBased? base digits).map fun n => (n, rest)
  match cs with
  | '0' :: x :: rest =>
    if x = 'x' || x = 'X' then (based 16 rest).or (some (0, x :: rest)) else based 8 cs
  | cs =>
    match cs with
    | '0' :: rest => some (0, rest)
    | cs => based 10 cs

/-- The number at the start of a text, and what follows it. -/
def readInteger? (cs : List Char) : Option (Int × List Char) :=
  match cs.dropWhile isSpace with
  | '-' :: rest => (readUnsigned? rest).map fun (n, rest) => (saturate (-(n : Int)), rest)
  | '+' :: rest => (readUnsigned? rest).map fun (n, rest) => (saturate n, rest)
  | cs => (readUnsigned? cs).map fun (n, rest) => (saturate n, rest)

/-- A decimal number with nothing but blanks around it. -/
def decimal? (cs : List Char) : Option Int :=
  let read (cs : List Char) : Option Nat :=
    let digits := cs.takeWhile Char.isDigit
    if (cs.dropWhile Char.isDigit).all isSpace then Decimal.readDigits? digits else none
  match cs.dropWhile isSpace with
  | '-' :: rest => (read rest).map fun n => saturate (-(n : Int))
  | '+' :: rest => (read rest).map fun n => saturate n
  | cs => (read cs).map fun n => saturate n

/-- A count that a command is given: a decimal number that is not negative and fits
31 bits. -/
def count? (cs : List Char) : Option Nat :=
  match decimal? cs with
  | some n => if 0 ≤ n && n ≤ 2147483647 then some n.toNat else none
  | none => none

end ChapelCheck.Shell
