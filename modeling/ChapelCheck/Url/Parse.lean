import ChapelCheck.Text.Decimal
import ChapelCheck.Text.Split
import ChapelCheck.Url
import ChapelCheck.Url.Host
import ChapelCheck.Url.Resolve

/-!
# ChapelCheck.Url.Parse

Reading URLs the way browsers do.  Blanks around the text and line ends inside
it are dropped, scheme and host are brought into one spelling, `.` and `..` are
resolved, and characters that a part must not hold are percent-encoded.
-/

namespace ChapelCheck.Url

open Text

/-! ## schemes -/

/-- Whether a character may stand in a scheme after its first letter. -/
def isSchemeChar (c : Char) : Bool := c.isAlphanum || c = '+' || c = '-' || c = '.'

/-- Takes the scheme off, in lower case. -/
def splitScheme (cs : List Char) : Option (String × List Char) :=
  match cs, cut ':' cs with
  | c :: _, (name, some rest) =>
    if c.isAlpha && name.all isSchemeChar then
      some (String.ofList (name.map Char.toLower), rest)
    else none
  | _, _ => none

/-! ## blanks -/

/-- Characters that are dropped at either end. -/
def isEdge (c : Char) : Bool := c.toNat ≤ 0x20

/-- Characters that are dropped everywhere. -/
def isLineEnd (c : Char) : Bool := c = '\t' || c = '\n' || c = '\r'

/-- A text without the characters that are dropped. -/
def clean (cs : List Char) : List Char :=
  ((((cs.dropWhile isEdge).reverse).dropWhile isEdge).reverse).filter (!isLineEnd ·)

/-! ## query and fragment -/

/-- Cuts a fragment and a query off. -/
def splitTail (cs : List Char) : List Char × Option (List Char) × Option (List Char) :=
  let (front, fragment) := cut '#' cs
  let (path, query) := cut '?' front
  (path, query, fragment)

/-- A URL from its parts, with query and fragment encoded. -/
def assemble (scheme : String) (k : Kind) (authority host : Option (List Char)) (route : Route)
    (query fragment : Option (List Char)) : Url where
  scheme := scheme
  authority := authority.map String.ofList
  host := host.map String.ofList
  route := route
  query := query.map fun q => String.ofList (encode (inQuerySet k.isSpecial) q)
  fragment := fragment.map fun f => String.ofList (encode inFragmentSet f)

/-! ## authorities -/

/-- Whether a character ends the part before the path. -/
def endsAuthority (k : Kind) (c : Char) : Bool := k.separates c || c = '?' || c = '#'

/-- The text before the last `@` of an authority, if there is one, and the text
after it. -/
def splitCredentials (k : Kind) (cs : List Char) : Option (List Char) × List Char :=
  match cut '@' (cs.takeWhile (!endsAuthority k ·)).reverse with
  | (_, none) => (none, cs)
  | (after, some before) =>
    (some before.reverse, after.reverse ++ cs.dropWhile (!endsAuthority k ·))

/-- Credentials, encoded; an empty password is left out with its colon. -/
def credentialText (cs : List Char) : List Char :=
  let (name, password) := cut ':' cs
  let name := encode inCredentialSet name
  match password with
  | none => if name.isEmpty then [] else name ++ ['@']
  | some [] => if name.isEmpty then [] else name ++ ['@']
  | some password => name ++ ':' :: encode inCredentialSet password ++ ['@']

/-- Cuts a text at the end of its host.  A colon inside brackets belongs to the
host. -/
def splitHost (k : Kind) (bracketed : Bool) : List Char → List Char × List Char
  | [] => ([], [])
  | c :: cs =>
    if endsAuthority k c || (c = ':' && !bracketed) then ([], c :: cs)
    else
      let (host, rest) := splitHost k (c = '[' || (bracketed && c ≠ ']')) cs
      (c :: host, rest)

/-- A port and the text behind it; the usual port of a scheme is left out. -/
def splitPort (scheme : String) : List Char → Except ParseError (List Char × List Char)
  | ':' :: cs =>
    let rest := cs.dropWhile Char.isDigit
    if !rest.head?.all (· ∈ ['/', '\\', '?', '#']) then .error .badPort
    else match Decimal.readDigits? (cs.takeWhile Char.isDigit) with
      | none => .ok ([], rest)
      | some n =>
        if n > 65535 then .error .badPort
        else if usualPorts.lookup scheme = some n then .ok ([], rest)
        else .ok (':' :: Decimal.write n, rest)
  | cs => .ok ([], cs)

/-! ## the parts together -/

/-- The segments of a path. -/
def Route.ofPath : List Char → Route
  | '/' :: cs => .rooted ((pieces '/' cs).map String.ofList)
  | _ => .rooted []

/-- The path behind an authority. -/
def pathBehind (k : Kind) (cs : List Char) : List Char × Bool :=
  match cs with
  | c :: rest =>
    if k.separates c then resolve k ['/'] rest else resolve k ['/'] cs
  | [] => if k.isSpecial then resolve k ['/'] [] else ([], false)

/-- A URL with an authority, given without the two slashes. -/
def parseNetwork (scheme : String) (k : Kind) (cs : List Char) : Except ParseError Url := do
  let (credentials, behind) := splitCredentials k cs
  if credentials = some [] ∧ behind.head?.any (endsAuthority k) then throw .emptyHost
  let credentials := (credentials.map credentialText).getD []
  let (hostText, behind) := splitHost k false behind
  if k = .network ∧ hostText = [] then throw .emptyHost
  let host ← if k = .network then specialHost hostText else otherHost hostText
  if host = [] ∧ behind.head? = some ':' then throw .emptyHost
  let (port, behind) ← splitPort scheme behind
  if host = [] ∧ credentials ≠ [] then throw .emptyHost
  let (path, query, fragment) := splitTail behind
  return assemble scheme k (some (credentials ++ host ++ port))
    (if host = [] then none else some host) (.ofPath (pathBehind k path).1) query fragment

/-- A URL of a file with a host, given without the two slashes.  A disk in the
place of the host belongs to the path. -/
def parseFileHost (cs : List Char) : Except ParseError Url := do
  let name := cs.takeWhile (!endsAuthority .file ·)
  let (hostText, behind) :=
    if isDrive name then ([], cs) else (name, cs.dropWhile (!endsAuthority .file ·))
  let host ← if hostText = [] then pure [] else specialHost hostText
  let host := if host = "localhost".toList then [] else host
  let (path, query, fragment) := splitTail behind
  let (path, onDrive) := if host = [] then resolve .file ['/'] path else pathBehind .file path
  let host := if onDrive then [] else host
  return assemble "file" .file (some host) (if host = [] then none else some host)
    (.ofPath path) query fragment

/-- A URL of a file, given without its scheme. -/
def parseFile (cs : List Char) : Except ParseError Url :=
  let here (start : List Char) : Except ParseError Url :=
    let (path, query, fragment) := splitTail cs
    .ok (assemble "file" .file (some []) none (.ofPath (resolve .file start path).1) query fragment)
  match cs with
  | a :: b :: rest =>
    if !Kind.file.separates a then here ['/']
    else if Kind.file.separates b then parseFileHost rest
    else here []
  | [a] => here (if Kind.file.separates a then [] else ['/'])
  | [] => here ['/']

/-- A URL of a scheme that is not special, given without its scheme. -/
def parseOther (scheme : String) (cs : List Char) : Except ParseError Url :=
  match cs with
  | '/' :: '/' :: rest => parseNetwork scheme .other rest
  | _ =>
    let (path, query, fragment) := splitTail cs
    let route := match path with
      | '/' :: rest => Route.ofPath (resolve .other ['/'] rest).1
      | text => Route.bare (String.ofList (encode inControlSet text))
    .ok (assemble scheme .other none none route query fragment)

/-- Reads a URL. -/
def parse (s : String) : Except ParseError Url :=
  match splitScheme (clean s.toList) with
  | none => .error .noScheme
  | some (scheme, rest) =>
    match Kind.ofScheme scheme with
    | .file => parseFile rest
    | .network => parseNetwork scheme .network (rest.dropWhile Kind.network.separates)
    | .other => parseOther scheme rest

end ChapelCheck.Url
