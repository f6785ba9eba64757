/-!
# ChapelCheck.Text.Utf8

Reading UTF-8, one octet at a time.  Octets that are no UTF-8 are reported
rather than lost: each longest run of octets that starts a character without
finishing it, and each octet that can start none, counts as one fault.

* `decode?` accepts a text without faults only.
* `decodeLossy` writes the replacement character U+FFFD for each fault.
-/

namespace ChapelCheck.Text.Utf8

/-- Where a reader stands: between characters, or inside one.  Inside a
character it knows the value so far, how many octets are owed, and the range
that the next one must lie in. -/
inductive State where
  | between
  | inside (value owed low high : Nat)
deriving DecidableEq, Repr

/-- The first octet of a character: the state after it, and what it completes,
where `none` is a fault. -/
def first (b : Nat) : State × List (Option Char) :=
  if b ≤ 0x7F then (.between, [some (Char.ofNat b)])
  else if 0xC2 ≤ b ∧ b ≤ 0xDF then (.inside (b - 0xC0) 1 0x80 0xBF, [])
  else if b = 0xE0 then (.inside 0 2 0xA0 0xBF, [])
  else if b = 0xED then (.inside 0xD 2 0x80 0x9F, [])
  else if 0xE1 ≤ b ∧ b ≤ 0xEF then (.inside (b - 0xE0) 2 0x80 0xBF, [])
  else if b = 0xF0 then (.inside 0 3 0x90 0xBF, [])
  else if 0xF1 ≤ b ∧ b ≤ 0xF3 then (.inside (b - 0xF0) 3 0x80 0xBF, [])
  else if b = 0xF4 then (.inside 4 3 0x80 0x8F, [])
  else (.between, [none])

/-- One octet.  An octet that cannot continue a character ends it with a
fault and is read again as the first of the next one. -/
def step : State → Nat → State × List (Option Char)
  | .between, b => first b
  | .inside value owed low high, b =>
    if low ≤ b ∧ b ≤ high then
      let value' := value * 64 + (b - 0x80)
      if owed ≤ 1 then (.between, [some (Char.ofNat value')])
      else (.inside value' (owed - 1) 0x80 0xBF, [])
    else ((first b).1, none :: (first b).2)

/-- What the octets complete from a state on; an unfinished character at the
end is a fault. -/
def readFrom : State → List UInt8 → List (Option Char)
  | .between, [] => []
  | .inside .., [] => [none]
  | s, b :: bs => (step s b.toNat).2 ++ readFrom (step s b.toNat).1 bs

/-- The characters that octets stand for, with `none` for each fault. -/
def read (bs : List UInt8) : List (Option Char) := readFrom .between bs

/-- The text of octets that are UTF-8 throughout. -/
def decode? (bs : List UInt8) : Option String :=
  ((read bs).mapM id).map String.ofList

/-- The text of octets, with U+FFFD for each fault. -/
def decodeLossy (bs : List UInt8) : String :=
  String.ofList ((read bs).map (·.getD (Char.ofNat 0xFFFD)))

/-- The octets of a text. -/
def encode (s : String) : List UInt8 := s.toUTF8.data.toList

end ChapelCheck.Text.Utf8
