import ChapelCheck.Text.Utf8
import ChapelCheck.Text.Hexadecimal

/-!
# ChapelCheck.Url.Percent

Percent encoding.  Each part of a URL has a set of characters that it writes as
the octets of their UTF-8 form, `%` and two hexadecimal digits for each; a `%`
that is there already stays as it is.
-/

namespace ChapelCheck.Url

open Text

/-! ## encode sets -/

/-- Control characters, and everything beyond ASCII. -/
def inControlSet (c : Char) : Bool := c.toNat < 0x20 || c.toNat > 0x7E

/-- What a fragment encodes. -/
def inFragmentSet (c : Char) : Bool :=
  inControlSet c || c = ' ' || c = '"' || c = '<' || c = '>' || c.toNat = 0x60

/-- What a query encodes; in a URL whose scheme is special an apostrophe too. -/
def inQuerySet (special : Bool) (c : Char) : Bool :=
  inControlSet c || c = ' ' || c = '"' || c = '#' || c = '<' || c = '>' ||
    (special && c.toNat = 0x27)

/-- What a path encodes. -/
def inPathSet (c : Char) : Bool :=
  inFragmentSet c || c = '#' || c = '?' || c = '\x7b' || c = '\x7d'

/-- What the names before a host encode. -/
def inCredentialSet (c : Char) : Bool :=
  inPathSet c || c = '/' || c = ':' || c = ';' || c = '=' || c = '@' || c = '[' ||
    c = '\\' || c = ']' || c = '^' || c = '|'

/-! ## encoding -/

/-- One octet, encoded. -/
def encodeOctet (b : UInt8) : List Char :=
  let digits := (hexDigits b.toNat).map Char.toUpper
  '%' :: (List.replicate (2 - digits.length) '0' ++ digits)

/-- One character, encoded if it is in the set. -/
def encodeChar (set : Char → Bool) (c : Char) : List Char :=
  if set c then (Utf8.encode (String.ofList [c])).flatMap encodeOctet else [c]

/-- A text with the characters of a set encoded. -/
def encode (set : Char → Bool) (cs : List Char) : List Char := cs.flatMap (encodeChar set)

/-! ## decoding -/

/-- The octets of a text, where `%` and two hexadecimal digits stand for one
octet.  A `%` without them stands for itself. -/
def decodeOctets : List Char → List UInt8
  | [] => []
  | '%' :: a :: b :: cs =>
    match hexValue? a, hexValue? b with
    | some h, some l => UInt8.ofNat (16 * h + l) :: decodeOctets cs
    | _, _ => '%'.toNat.toUInt8 :: decodeOctets (a :: b :: cs)
  | c :: cs => Utf8.encode (String.ofList [c]) ++ decodeOctets cs

/-- A text with its encoded octets decoded. -/
def decode (cs : List Char) : List Char := (Utf8.decodeLossy (decodeOctets cs)).toList

end ChapelCheck.Url
