/-!
# ChapelCheck.Url.ParseError

What can be wrong with the text of a URL.
-/

namespace ChapelCheck.Url

/-- Why a text is no URL. -/
inductive ParseError where
  | noScheme
  | emptyHost
  /-- A host of another scheme with a character that no host may hold. -/
  | badHost
  /-- A host of a special scheme that is no domain name. -/
  | badDomain
  /-- A host that is meant as four octets. -/
  | badOctets
  /-- A host that is meant as eight groups. -/
  | badGroups
  | badPort
deriving DecidableEq, Repr

/-- The wording of a parse error. -/
def ParseError.message : ParseError → String
  | .noScheme => "relative URL without a base"
  | .emptyHost => "empty host"
  | .badHost => "invalid domain character"
  | .badDomain => "invalid international domain name"
  | .badOctets => "invalid IPv4 address"
  | .badGroups => "invalid IPv6 address"
  | .badPort => "invalid port number"

end ChapelCheck.Url
