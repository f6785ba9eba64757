/-!
# ChapelCheck.Url.Kind

The schemes `http`, `https`, `ws`, `wss`, `ftp` and `file` are special: in them
a backslash separates like a slash, and all but `file` need a host.
-/

namespace ChapelCheck.Url

/-- The special schemes other than `file`, and their usual ports. -/
def usualPorts : List (String × Nat) :=
  [("http", 80), ("https", 443), ("ws", 80), ("wss", 443), ("ftp", 21)]

/-- What is special about a scheme. -/
inductive Kind where
  | file
  | network
  | other
deriving DecidableEq, Repr

/-- The kind of a scheme. -/
def Kind.ofScheme (scheme : String) : Kind :=
  if scheme = "file" then .file
  else if (usualPorts.lookup scheme).isSome then .network
  else .other

/-- Whether a kind is special. -/
def Kind.isSpecial (k : Kind) : Bool := k ≠ .other

/-- Whether a character separates the segments of a path. -/
def Kind.separates (k : Kind) (c : Char) : Bool := c = '/' || (k.isSpecial && c = '\\')

end ChapelCheck.Url
