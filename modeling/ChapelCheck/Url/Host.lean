import ChapelCheck.Url.Address
import ChapelCheck.Url.Domain
import ChapelCheck.Url.ParseError
import ChapelCheck.Url.Percent

/-!
# ChapelCheck.Url.Host

Hosts.  In every scheme an address of eight groups stands in brackets.  Any
other host of a special scheme is a domain name or an address of four octets;
that of another scheme is a text that keeps its letter case.
-/

namespace ChapelCheck.Url

open Text

/-- Characters that no host may hold. -/
def isForbiddenInHost (c : Char) : Bool :=
  c ∈ ['\x00', '\t', '\n', '\r', ' ', '#', '/', ':', '<', '>', '?', '@', '[', '\\', ']', '^', '|']

/-- An address in brackets, given without the first one. -/
def bracketed (cs : List Char) : Except ParseError (List Char) :=
  match cs.reverse with
  | ']' :: inside =>
    match groups? inside.reverse with
    | some groups => .ok ('[' :: writeGroups groups ++ [']'])
    | none => .error .badGroups
  | _ => .error .badGroups

/-- A domain name, or an address of four octets. -/
def domain (cs : List Char) : Except ParseError (List Char) :=
  match (Utf8.decode? (decodeOctets cs)).bind fun s => Domain.toAscii? s.toList with
  | none => .error .badDomain
  | some [] => .error .emptyHost
  | some name =>
    if looksLikeAddress name then
      match address? name with
      | some a => .ok a
      | none => .error .badOctets
    else .ok name

/-- The host of a special scheme. -/
def specialHost : List Char → Except ParseError (List Char)
  | '[' :: cs => bracketed cs
  | cs => domain cs

/-- The host of any other scheme. -/
def otherHost : List Char → Except ParseError (List Char)
  | '[' :: cs => bracketed cs
  | cs => if cs.any isForbiddenInHost then .error .badHost else .ok (encode inControlSet cs)

end ChapelCheck.Url
