import ChapelCheck.Path
import ChapelCheck.Url.Percent

/-!
# ChapelCheck.Url

The identifiers by which an editor names documents and folders, in the parts
they are made of:

```
file:///p/src/Main.chpl     scheme, empty authority, rooted path
untitled:Untitled-1         scheme, path without a root
https://host/a?q=1#part     scheme, authority, rooted path, query, fragment
```

`text` is the one spelling that every message uses, and `filePath?` the file
that a URL names, if it names one of this machine.
-/

namespace ChapelCheck

namespace Url

/-- The path of a URL. -/
inductive Route where
  /-- Segments behind slashes; none at all is the empty path. -/
  | rooted (segments : List String)
  /-- A text that does not start at a root. -/
  | bare (text : String)
deriving DecidableEq, Repr

/-- The spelling of a path. -/
def Route.text : Route → String
  | .rooted segments => String.join (segments.map ("/" ++ ·))
  | .bare text => text

end Url

/-- A URL. -/
structure Url where
  scheme : String
  /-- What stands behind two slashes: host, credentials and port. -/
  authority : Option String
  /-- The host alone, unless it is empty. -/
  host : Option String
  route : Url.Route
  query : Option String
  fragment : Option String
deriving DecidableEq, Repr

namespace Url

/-- What separates the scheme from the path.  A path that starts with two
slashes must not be taken for an authority. -/
def authorityText (u : Url) : String :=
  match u.authority with
  | some a => "//" ++ a
  | none => if "//".toList.isPrefixOf u.route.text.toList then "/." else ""

/-- The spelling of a URL. -/
def text (u : Url) : String :=
  u.scheme ++ ":" ++ u.authorityText ++ u.route.text ++
    (u.query.map ("?" ++ ·)).getD "" ++ (u.fragment.map ("#" ++ ·)).getD ""

/-- Whether a text ends like a bare drive letter. -/
def endsInDrive (cs : List Char) : Bool :=
  match cs.reverse with
  | sign :: letter :: _ :: _ => (sign = ':' || sign = '|') && letter.isAlpha
  | _ => false

/-- The file that a URL names: its path with the encoded octets decoded, if the
path has a root and the host is this machine.  The names of files are texts here;
octets that are no text are read as replacement characters. -/
def filePath? (u : Url) : Option Path :=
  match u.route with
  | .bare _ => none
  | .rooted [] => none
  | .rooted segments =>
    if u.host = none ∨ u.host = some "localhost" then
      let cs := (segments.flatMap fun s => '/' :: decode s.toList)
      some ⟨String.ofList (if endsInDrive cs then cs ++ ['/'] else cs)⟩
    else none

end Url

end ChapelCheck
