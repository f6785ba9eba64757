import ChapelCheck.Text.Split

/-!
# ChapelCheck.Url.Domain.Punycode

Labels in ASCII letters, digits and hyphens that stand for labels in any
script.  The ASCII characters of a label come first, with a hyphen behind them,
and then one number for each other character, in increasing order of code
points:

```
bücher     bcher-kva
日         wgv
```

A number says how many steps lie between two insertions, where a step goes to
the next place of the label, and from the last place to the first place with
the next code point.  It is written least digit first, with `a` to `z` and `0`
to `9` for the digits; a digit below a threshold is the last of its number, and
the thresholds follow the size of the numbers before.
-/

namespace ChapelCheck.Url.Domain.Punycode

open Text

/-! ## digits -/

/-- The digit of a value below 36. -/
def digitChar (d : Nat) : Char := if d < 26 then Char.ofNat (0x61 + d) else Char.ofNat (0x16 + d)

/-- The value of a digit. -/
def digitValue? (c : Char) : Option Nat :=
  let n := c.toNat
  if 0x61 ≤ n ∧ n ≤ 0x7A then some (n - 0x61)
  else if 0x41 ≤ n ∧ n ≤ 0x5A then some (n - 0x41)
  else if 0x30 ≤ n ∧ n ≤ 0x39 then some (n - 0x16)
  else none

/-- The threshold of the digit at a place, where places count in steps of 36. -/
def threshold (bias place : Nat) : Nat :=
  if place ≤ bias then 1 else if bias + 26 ≤ place then 26 else place - bias

theorem threshold_pos (bias place : Nat) : 1 ≤ threshold bias place := by
  unfold threshold
  split
  · omega
  · split <;> omega

/-! ## the bias -/

/-- A large number, scaled down, and how far. -/
def scaleDown (n bias : Nat) : Nat × Nat :=
  if 455 < n then scaleDown (n / 35) (bias + 36) else (n, bias)
termination_by n
decreasing_by exact Nat.div_lt_self (by omega) (by omega)

/-- The bias after a number, of which `count` have been read or written by then,
ASCII characters included. -/
def adapt (n count : Nat) (isFirst : Bool) : Nat :=
  let halved := if isFirst then n / 700 else n / 2
  let (small, bias) := scaleDown (halved + halved / count) 0
  bias + 36 * small / (small + 38)

/-! ## writing -/

/-- The digits of a number from a place on. -/
def writeNumber (bias place n : Nat) : List Char :=
  let t := threshold bias place
  if n < t then [digitChar n]
  else digitChar (t + (n - t) % (36 - t)) :: writeNumber bias (place + 36) ((n - t) / (36 - t))
termination_by n
decreasing_by
  have h := threshold_pos bias place
  have h' : (n - threshold bias place) / (36 - threshold bias place) ≤ n - threshold bias place :=
    Nat.div_le_self _ _
  omega

/-- A writer: the digits so far, the steps since the last insertion, the bias,
and how many characters have their place. -/
structure Writer where
  digits : List Char
  steps : Nat
  bias : Nat
  placed : Nat

/-- Passes one character of a label while the characters `code` are inserted. -/
def Writer.pass (basic code : Nat) (w : Writer) (c : Char) : Writer :=
  if c.toNat < code then { w with steps := w.steps + 1 }
  else if c.toNat = code then
    { digits := w.digits ++ writeNumber w.bias 36 w.steps
      steps := 0
      bias := adapt w.steps (w.placed + 1) (w.placed = basic)
      placed := w.placed + 1 }
  else w

/-- Inserts the characters of each code point, in increasing order.  The writer
stands before the first place of code point `next`. -/
def Writer.insert (label : List Char) (basic next : Nat) (w : Writer) : List Nat → Writer
  | [] => w
  | code :: codes =>
    let w := { w with steps := w.steps + (code - next) * (w.placed + 1) }
    let w := label.foldl (Writer.pass basic code) w
    Writer.insert label basic (code + 1) { w with steps := w.steps + 1 } codes

/-- A number put in its place among increasing ones, unless it is there. -/
def insertCode (n : Nat) : List Nat → List Nat
  | [] => [n]
  | m :: ms => if n < m then n :: m :: ms else if n = m then m :: ms else m :: insertCode n ms

/-- The code points of a label beyond ASCII, in increasing order. -/
def codes (label : List Char) : List Nat :=
  ((label.map Char.toNat).filter (0x80 ≤ ·)).foldr insertCode []

/-- A label in ASCII. -/
def encode (label : List Char) : List Char :=
  let basic := label.filter (·.toNat < 0x80)
  let start : Writer := ⟨[], 0, 72, basic.length⟩
  (if basic.isEmpty then [] else basic ++ ['-']) ++
    (start.insert label basic.length 0x80 (codes label)).digits

/-! ## reading -/

/-- The number that stands at the start of a text, added to `sum` with a weight
for its next digit, and the text behind it. -/
def readNumber (bias place weight sum : Nat) : List Char → Option (Nat × List Char)
  | [] => none
  | c :: cs => (digitValue? c).bind fun d =>
    let sum := sum + d * weight
    if d < threshold bias place then some (sum, cs)
    else readNumber bias (place + 36) (weight * (36 - threshold bias place)) sum cs

theorem readNumber_length (bias place weight sum : Nat) (cs : List Char) {n : Nat}
    {rest : List Char} (h : readNumber bias place weight sum cs = some (n, rest)) :
    rest.length < cs.length := by
  induction cs generalizing place weight sum with
  | nil => simp [readNumber] at h
  | cons c cs ih =>
    rw [readNumber] at h
    cases hd : digitValue? c with
    | none => simp [hd] at h
    | some d =>
      simp only [hd, Option.bind_some] at h
      split at h
      · simp only [Option.some.injEq, Prod.mk.injEq] at h
        simp [← h.2]
      · have := ih _ _ _ h
        simp only [List.length_cons]
        omega

/-- Inserts a character for each number of a text into a label.  `code` and
`place` are where the last insertion left off. -/
def readOnto (bias code place : Nat) (label cs : List Char) : Option (List Char) :=
  match cs with
  | [] => some label
  | c :: cs =>
    match _h : readNumber bias 36 1 place (c :: cs) with
    | none => none
    | some (n, rest) =>
      let count := label.length + 1
      let code := code + n / count
      if code < 0xD800 ∨ (0xDFFF < code ∧ code ≤ 0x10FFFF) then
        readOnto (adapt (n - place) count (place = 0)) code (n % count + 1)
          (label.insertIdx (n % count) (Char.ofNat code)) rest
      else none
termination_by cs.length
decreasing_by exact readNumber_length _ _ _ _ _ _h

/-- The label that a label in ASCII stands for. -/
def decode? (cs : List Char) : Option (List Char) :=
  match cut '-' cs.reverse with
  | (after, some (c :: before)) => readOnto 72 0x80 0 (c :: before).reverse after.reverse
  | _ => readOnto 72 0x80 0 [] cs

end ChapelCheck.Url.Domain.Punycode
