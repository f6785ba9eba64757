import ChapelCheck.Url.Domain.Direction
import ChapelCheck.Url.Domain.Joining
import ChapelCheck.Url.Domain.Mapping
import ChapelCheck.Url.Domain.Punycode

/-!
# ChapelCheck.Url.Domain

Domain names in the one spelling that the network knows, which is ASCII.

1. Every character is mapped, and the text is brought into normal form.
2. The labels between the dots are read.  A label that starts with `xn--` is in
   Punycode, and must stand for a label that it is needed for.
3. A label must not start with a mark, and a joiner in it must show.
4. If one label is written to the left, each keeps to one direction.
5. Labels beyond ASCII are written in Punycode, and no label may hold an ASCII
   character that means something in a URL.
-/

namespace ChapelCheck.Url.Domain

open Text

/-- Whether a text is ASCII. -/
def isAscii (cs : List Char) : Bool := cs.all (·.toNat < 0x80)

/-- ASCII characters that no name may hold. -/
def isForbidden (c : Char) : Bool :=
  c.toNat ≤ 0x20 || c.toNat = 0x7F ||
    c ∈ ['%', '#', '/', ':', '<', '>', '?', '@', '[', '\\', ']', '^', '|']

/-- What stands before a label in Punycode. -/
def mark : List Char := ['x', 'n', '-', '-']

/-- The label that a label in Punycode stands for.  It must be one that could
not be written otherwise: beyond ASCII, mapped and in normal form. -/
def decodeLabel? (punycode : List Char) : Option (List Char) :=
  (Punycode.decode? punycode).bind fun label =>
    if !isAscii label && label.all isSettled && normal label = label then some label else none

/-- A mapped label as it is read. -/
def readLabel? (cs : List Char) : Option (List Char) :=
  if mark.isPrefixOf cs then decodeLabel? (cs.drop mark.length) else some cs

/-- Whether a label may stand on its own. -/
def isLabel (label : List Char) : Bool := !label.head?.any isMark && joinersShow [] label

/-- A mapped label as it is written. -/
def writeLabel (cs : List Char) : List Char :=
  if isAscii cs then cs else mark ++ Punycode.encode cs

/-- Whether a name is ASCII without Punycode, so that only its case changes. -/
def isPlain (cs : List Char) : Bool :=
  isAscii cs && (pieces '.' cs).all fun label => !mark.isPrefixOf (label.map Char.toLower)

/-- The labels of a mapped name, in ASCII. -/
def writeLabels? (labels : List (List Char)) : Option (List (List Char)) :=
  (labels.mapM readLabel?).bind fun read =>
    if read.all isLabel && (!read.any hasLeftward || read.all keepsDirection) then
      some (labels.map writeLabel)
    else none

/-- A domain name in ASCII. -/
def toAscii? (cs : List Char) : Option (List Char) :=
  let name :=
    if isPlain cs then some (cs.map Char.toLower)
    else (mapText cs).bind fun mapped =>
      (writeLabels? (pieces '.' (normal mapped))).map (joinPieces '.')
  name.filter (!·.any isForbidden)

end ChapelCheck.Url.Domain
