import ChapelCheck.Text.Decimal

/-!
# ChapelCheck.Json.Binary64

Finite binary floating-point numbers of 64 bits, in exact arithmetic: a sign, a
mantissa of at most 53 bits and a power of two that is at least 2^(-1074).

* `round?` takes a ratio to the nearest such number, a tie to the even
  mantissa.
* `shortest` gives the fewest decimal digits that lie nearer to the number than
  to its neighbours, and of those the nearest.
* `compactText` writes these digits, with an exponent where the number is very
  large or very small.
-/

namespace ChapelCheck

/-- The number `mantissa * 2 ^ exponent`, or its negation. -/
structure Binary64 where
  negative : Bool
  mantissa : Nat
  exponent : Int
deriving DecidableEq, Repr

namespace Binary64

/-- The least mantissa of 53 bits. -/
def leastFull : Nat := 4503599627370496

/-! ## ratios -/

/-- A non-negative ratio, as numerator and denominator. -/
abbrev Ratio := Nat × Nat

/-- A ratio times a power of a base. -/
def scale (base : Nat) (r : Ratio) : Int → Ratio
  | .ofNat n => (r.1 * Nat.pow base n, r.2)
  | .negSucc n => (r.1, r.2 * Nat.pow base (n + 1))

/-- The size of a number, without its sign. -/
def size (x : Binary64) : Ratio := scale 2 (x.mantissa, 1) x.exponent

/-- The nearest whole number; a tie goes to the even one. -/
def nearest (r : Ratio) : Nat :=
  let q := r.1 / r.2
  let twice := 2 * (r.1 % r.2)
  if twice < r.2 then q
  else if twice > r.2 then q + 1
  else if q % 2 = 0 then q
  else q + 1

/-- The greatest power of two that is at most a positive ratio. -/
def binaryOrder (r : Ratio) : Int :=
  let k : Int := (Nat.log2 r.1 : Int) - (Nat.log2 r.2 : Int)
  let s := scale 2 (1, 1) k
  if s.1 * r.2 ≤ r.1 * s.2 then k else k - 1

/-- The number nearest to a ratio, unless the ratio is too large. -/
def round? (negative : Bool) (r : Ratio) : Option Binary64 :=
  if r.1 = 0 then some ⟨negative, 0, 0⟩
  else
    let e := max (binaryOrder r - 52) (-1074)
    let m := nearest (scale 2 r (-e))
    let (m, e) := if m = 2 * leastFull then (leastFull, e + 1) else (m, e)
    if e > 971 then none else some ⟨negative, m, e⟩

/-- The product of a number and a ratio, rounded. -/
def times? (x : Binary64) (r : Ratio) : Option Binary64 :=
  round? x.negative (x.size.1 * r.1, x.size.2 * r.2)

/-! ## reading decimals -/

/-- The power `10 ^ n`, rounded. -/
def powerOfTen (n : Nat) : Ratio :=
  ((round? false (Nat.pow 10 n, 1)).map size).getD (Nat.pow 10 n, 1)

/-- Divides a number by 10^308 while more than 308 places are to be shifted
down; a number that has reached zero stays there.  The count bounds the
divisions, of which three always reach zero. -/
def shiftDown (count : Nat) (x : Binary64) (places : Nat) : Option Binary64 :=
  match count with
  | 0 => some ⟨x.negative, 0, 0⟩
  | count + 1 =>
    if places ≤ 308 then
      let p := powerOfTen places
      x.times? (p.2, p.1)
    else if x.mantissa = 0 then some x
    else
      let p := powerOfTen 308
      (x.times? (p.2, p.1)).bind fun y => shiftDown count y (places - 308)

/-- The number `digits * 10 ^ exponent`: the digits are rounded first, and then
multiplied or divided by a rounded power of ten.  There is none if the result
is too large. -/
def ofDecimal? (negative : Bool) (digits : Nat) (exponent : Int) : Option Binary64 :=
  (round? negative (digits, 1)).bind fun x =>
    match exponent with
    | .ofNat n =>
      if n ≤ 308 then x.times? (powerOfTen n)
      else if x.mantissa = 0 then some x
      else none
    | .negSucc n => shiftDown 4 x (n + 1)

/-! ## shortest decimals -/

/-- How many decimal digits a number has. -/
def digitCount (n : Nat) : Nat := (Nat.toDigits 10 n).length

/-- The greatest power of ten that is at most a positive ratio. -/
def decimalOrder (r : Ratio) : Int :=
  if r.2 ≤ r.1 then (digitCount (r.1 / r.2) : Int) - 1
  else
    let j := digitCount r.2 - digitCount r.1
    if r.2 ≤ r.1 * Nat.pow 10 (j - 1) then 1 - (j : Int)
    else if r.2 ≤ r.1 * Nat.pow 10 j then -(j : Int)
    else -(j : Int) - 1

/-- Whether a ratio lies in the range of reals that round to a number. -/
def roundsTo (x : Binary64) (r : Ratio) : Bool :=
  let quarter := scale 2 (1, 1) (x.exponent - 2)
  let low := if x.mantissa = leastFull ∧ x.exponent > -1074 then 4 * x.mantissa - 1
    else 4 * x.mantissa - 2
  let high := 4 * x.mantissa + 2
  let a := low * quarter.1 * r.2
  let b := r.1 * quarter.2
  let c := high * quarter.1 * r.2
  if x.mantissa % 2 = 0 then a ≤ b && b ≤ c else a < b && b < c

/-- The decimal with `n` digits that rounds to a positive number, if there is
one: its digits and the power of ten of the last of them. -/
def withDigits? (x : Binary64) (n : Nat) : Option (Nat × Int) :=
  let unit : Int := decimalOrder x.size - (n : Int) + 1
  let scaled := scale 10 x.size (-unit)
  let q := scaled.1 / scaled.2
  let lowFits := roundsTo x (scale 10 (q, 1) unit)
  let highFits := roundsTo x (scale 10 (q + 1, 1) unit)
  if lowFits && highFits then some (nearest scaled, unit)
  else if lowFits then some (q, unit)
  else if highFits then some (q + 1, unit)
  else none

/-- The fewest decimal digits that round to a positive number, and the power of
ten of the last of them. -/
def shortest (x : Binary64) : Nat × Int :=
  ((List.range 17).findSome? fun n => withDigits? x (n + 1)).getD (0, 0)

/-- Digits without the zeros at their end, which move into the power of ten. -/
def dropZeros : List Char → Int → List Char × Int
  | '0' :: cs, e => dropZeros cs (e + 1)
  | cs, e => (cs.reverse, e)

/-- The shortest digits of a number, without zeros at the end, and where the
decimal point stands behind them. -/
def digits (x : Binary64) : List Char × Int :=
  if x.mantissa = 0 then (['0'], 0)
  else
    let s := shortest x
    dropZeros (Text.Decimal.write s.1).reverse s.2

/-- Zeros in a row. -/
def zeros (n : Nat) : List Char := List.replicate n '0'

/-- Digits written without an exponent, always with a decimal point. -/
def positional (ds : List Char) (exponent : Int) : List Char :=
  let point : Int := ds.length + exponent
  if exponent ≥ 0 then ds ++ zeros exponent.toNat ++ ['.', '0']
  else if point > 0 then ds.take point.toNat ++ '.' :: ds.drop point.toNat
  else '0' :: '.' :: (zeros (-point).toNat ++ ds)

/-- The sign of a number. -/
def sign (x : Binary64) : List Char := if x.negative then ['-'] else []

/-- A power of ten with its sign, which is always written. -/
def exponentText (n : Int) : List Char :=
  (if n < 0 then '-' else '+') :: Text.Decimal.write n.natAbs

/-- A number with an exponent if the decimal point would stand more than 16
places behind its first digit, or 5 and more zeros before it. -/
def compactText (x : Binary64) : String :=
  let (ds, exponent) := x.digits
  let point : Int := ds.length + exponent
  if -5 < point ∧ point ≤ 16 then String.ofList (x.sign ++ positional ds exponent)
  else
    let mantissa := match ds with
      | [] => []
      | [d] => [d]
      | d :: rest => d :: '.' :: rest
    String.ofList (x.sign ++ mantissa ++ 'e' :: exponentText (point - 1))

end Binary64

end ChapelCheck
