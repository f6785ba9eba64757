import ChapelCheck.Json
import ChapelCheck.Text.Decimal
import ChapelCheck.Text.Hexadecimal

/-!
# ChapelCheck.Json.Parse

Reading JSON text.  Whole numbers of up to 64 bits are read exactly; a number
with a fraction or an exponent, or too large for that, is read as a
floating-point number from as many of its first digits as 64 bits hold.
-/

namespace ChapelCheck.Json

open Text

/-! ## blanks and digits -/

/-- The blanks between tokens. -/
def isSpace (c : Char) : Bool := c = ' ' || c = '\n' || c = '\r' || c = '\t'

/-- Skips blanks. -/
def skipSpace (cs : List Char) : List Char := cs.dropWhile isSpace

/-- Takes a fixed text off the front. -/
def keyword? (word cs : List Char) : Option (List Char) :=
  if word.isPrefixOf cs then some (cs.drop word.length) else none

/-- The digits at the front, as values, and what follows them. -/
def takeDigits : List Char → List Nat × List Char
  | [] => ([], [])
  | c :: cs =>
    match Decimal.digit? c with
    | some d => (d :: (takeDigits cs).1, (takeDigits cs).2)
    | none => ([], c :: cs)

/-! ## numbers -/

/-- The greatest whole number that 64 bits hold. -/
def greatest : Nat := UInt64.size - 1

/-- Digits before the decimal point: once the number would be too large, the
remaining ones only count as places. -/
def gatherWhole (n : Nat) (places : Int) : List Nat → Nat × Int
  | [] => (n, places)
  | d :: ds =>
    if places = 0 ∧ 10 * n + d ≤ greatest then gatherWhole (10 * n + d) 0 ds
    else gatherWhole n (places + 1) ds

/-- Digits behind the decimal point: from the first one that would make the
number too large on they are left out. -/
def gatherFraction (n : Nat) (places : Int) : List Nat → Nat × Int
  | [] => (n, places)
  | d :: ds =>
    if 10 * n + d ≤ greatest then gatherFraction (10 * n + d) (places - 1) ds
    else (n, places)

/-- A sign and an exponent's digits. -/
def exponent? (cs : List Char) : Option (Int × List Char) :=
  let (negative, cs) := match cs with
    | '-' :: cs => (true, cs)
    | '+' :: cs => (false, cs)
    | cs => (false, cs)
  match takeDigits cs with
  | ([], _) => none
  | (ds, cs) =>
    let n : Nat := ds.foldl (fun n d => 10 * n + d) 0
    some (if negative then -(n : Int) else n, cs)

/-- A number without fraction and exponent.  A negative zero, and what is too
large for 64 bits, is a floating-point number. -/
def wholeNumber? (negative : Bool) (ds : List Nat) : Option JsonNumber :=
  let n : Nat := ds.foldl (fun n d => 10 * n + d) 0
  if !negative && n ≤ greatest then some (.whole n)
  else if negative && 0 < n && n ≤ UInt64.size / 2 then some (.whole (-(n : Int)))
  else
    let (m, places) := gatherWhole 0 0 ds
    (Binary64.ofDecimal? negative m places).map .floating

/-- The digits of a number before its decimal point: a single zero, or digits
that start with another one. -/
def wholePart? (cs : List Char) : Option (List Nat × List Char) :=
  match takeDigits cs with
  | ([], _) => none
  | (0 :: _ :: _, _) => none
  | part => some part

/-- A number after its sign. -/
def unsignedNumber? (negative : Bool) (cs : List Char) : Option (JsonNumber × List Char) := do
  let (ds, cs) ← wholePart? cs
  let fraction? ← match cs with
    | '.' :: cs =>
      match takeDigits cs with
      | ([], _) => none
      | (fs, cs) => some (some fs, cs)
    | cs => some (none, cs)
  let (fs?, cs) := fraction?
  let (exp?, cs) ← match cs with
    | 'e' :: cs => (exponent? cs).map fun (e, cs) => (some e, cs)
    | 'E' :: cs => (exponent? cs).map fun (e, cs) => (some e, cs)
    | cs => some (none, cs)
  match fs?, exp? with
  | none, none => (wholeNumber? negative ds).map (·, cs)
  | _, _ =>
    let (m, places) := gatherWhole 0 0 ds
    let (m, places) := gatherFraction m places (fs?.getD [])
    (Binary64.ofDecimal? negative m (places + exp?.getD 0)).map (.floating ·, cs)

/-- A number. -/
def number? : List Char → Option (JsonNumber × List Char)
  | '-' :: cs => unsignedNumber? true cs
  | cs => unsignedNumber? false cs

/-! ## strings -/

/-- The value of four hexadecimal digits. -/
def hexUnit? (a b c d : Char) : Option Nat := do
  let a ← hexValue? a
  let b ← hexValue? b
  let c ← hexValue? c
  let d ← hexValue? d
  return ((a * 16 + b) * 16 + c) * 16 + d

/-- The character of a one-letter escape. -/
def escape? : Char → Option Char
  | '"' => some '"'
  | '\\' => some '\\'
  | '/' => some '/'
  | 'b' => some '\x08'
  | 'f' => some '\x0c'
  | 'n' => some '\n'
  | 'r' => some '\r'
  | 't' => some '\t'
  | _ => none

/-- The rest of a string after its opening quote: its characters, and what
follows the closing one.  An escaped code unit of the high half must be
followed by one of the low half, with which it makes one character. -/
def stringBody? : List Char → Option (List Char × List Char)
  | [] => none
  | '"' :: cs => some ([], cs)
  | '\\' :: 'u' :: a :: b :: c :: d :: '\\' :: 'u' :: e :: f :: g :: h :: cs =>
    match hexUnit? a b c d, hexUnit? e f g h with
    | some hi, some lo =>
      if 0xD800 ≤ hi ∧ hi < 0xDC00 then
        if 0xDC00 ≤ lo ∧ lo < 0xE000 then
          (stringBody? cs).map fun (s, rest) =>
            (Char.ofNat (0x10000 + (hi - 0xD800) * 0x400 + (lo - 0xDC00)) :: s, rest)
        else none
      else if 0xDC00 ≤ hi ∧ hi < 0xE000 then none
      else
        (stringBody? ('\\' :: 'u' :: e :: f :: g :: h :: cs)).map fun (s, rest) =>
          (Char.ofNat hi :: s, rest)
    | _, _ => none
  | '\\' :: 'u' :: a :: b :: c :: d :: cs =>
    match hexUnit? a b c d with
    | some n =>
      if 0xD800 ≤ n ∧ n < 0xE000 then none
      else (stringBody? cs).map fun (s, rest) => (Char.ofNat n :: s, rest)
    | none => none
  | '\\' :: c :: cs =>
    match escape? c with
    | some e => (stringBody? cs).map fun (s, rest) => (e :: s, rest)
    | none => none
  | c :: cs =>
    if c.toNat < 0x20 ∨ c = '\\' then none
    else (stringBody? cs).map fun (s, rest) => (c :: s, rest)

/-! ## values -/

mutual

/-- One value, after blanks.  The number bounds how many values may be nested
and follow one another; the length of the text is always enough. -/
def value? (bound : Nat) (cs : List Char) : Option (Json × List Char) :=
  match bound with
  | 0 => none
  | bound + 1 =>
    match skipSpace cs with
    | [] => none
    | 'n' :: cs => (keyword? ['u', 'l', 'l'] cs).map (.null, ·)
    | 't' :: cs => (keyword? ['r', 'u', 'e'] cs).map (.bool true, ·)
    | 'f' :: cs => (keyword? ['a', 'l', 's', 'e'] cs).map (.bool false, ·)
    | '"' :: cs => (stringBody? cs).map fun (s, cs) => (.string (String.ofList s), cs)
    | '[' :: cs =>
      match skipSpace cs with
      | ']' :: cs => some (.array [], cs)
      | cs => (items? bound cs).map fun (vs, cs) => (.array vs, cs)
    | '\x7b' :: cs =>
      match skipSpace cs with
      | '\x7d' :: cs => some (.object [], cs)
      | cs => (members? bound cs).map fun (ms, cs) => (ofMembers ms, cs)
    | cs => (number? cs).map fun (n, cs) => (.number n, cs)

/-- The items of an array up to its closing bracket. -/
def items? (bound : Nat) (cs : List Char) : Option (List Json × List Char) :=
  match bound with
  | 0 => none
  | bound + 1 =>
    match value? bound cs with
    | none => none
    | some (v, cs) =>
      match skipSpace cs with
      | ']' :: cs => some ([v], cs)
      | ',' :: cs => (items? bound cs).map fun (vs, cs) => (v :: vs, cs)
      | _ => none

/-- The members of an object up to its closing brace. -/
def members? (bound : Nat) (cs : List Char) : Option (List (String × Json) × List Char) :=
  match bound with
  | 0 => none
  | bound + 1 =>
    match skipSpace cs with
    | '"' :: cs =>
      match stringBody? cs with
      | none => none
      | some (name, cs) =>
        match skipSpace cs with
        | ':' :: cs =>
          match value? bound cs with
          | none => none
          | some (v, cs) =>
            match skipSpace cs with
            | '\x7d' :: cs => some ([(String.ofList name, v)], cs)
            | ',' :: cs => (members? bound cs).map fun (ms, cs) => ((String.ofList name, v) :: ms, cs)
            | _ => none
        | _ => none
    | _ => none

end

/-- Reads a JSON text. -/
def parse? (text : String) : Option Json :=
  match value? (text.length + 1) text.toList with
  | some (v, rest) => if (skipSpace rest).isEmpty then some v else none
  | none => none

end ChapelCheck.Json
