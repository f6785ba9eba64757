import ChapelCheck.Json.Shape

/-!
# ChapelCheck.Json.Schema

Shapes of JSON values, described by data, and checking values against them.

```
record "Position" [line, character]     {"line": 1, "character": 2}   or   [1, 2]
merged "HoverParams" [] [place, token]  {"textDocument": .., "position": .., "workDoneToken": ..}
choice "NumberOrString" [number, text]  7   or   "seven"
```

The members of an object are checked in the order of their names, and after
that it is checked in the order of the fields that none is missing.  A record
may also be given as an array of its fields in order.  A merged record has
fields of its own and those of other records; the members that belong to the
others are set aside and checked last, record by record.
-/

namespace ChapelCheck.Json

open Text

/-- How a field may be left out. -/
inductive Presence where
  /-- It must be there. -/
  | required
  /-- It may be null, and a member of an object may be missing. -/
  | optional
  /-- It may be null, and it may be missing. -/
  | lenient
  /-- It may be missing. -/
  | defaulted
deriving DecidableEq, Repr

/-- Whether null stands for a field that is left out. -/
def Presence.admitsNull : Presence → Bool
  | .optional => true
  | .lenient => true
  | _ => false

/-- Whether an object may lack the member. -/
def Presence.admitsMissing : Presence → Bool
  | .required => false
  | _ => true

/-- Whether an array may end before the field. -/
def Presence.admitsEnd : Presence → Bool
  | .lenient => true
  | .defaulted => true
  | _ => false

/-- The shape of a value. -/
inductive Schema where
  | anything
  | boolean
  | text
  /-- A whole number in a range; `wanted` names the range. -/
  | whole (low high : Int) (wanted : String)
  /-- Any number; `wanted` names its kind. -/
  | number (wanted : String)
  /-- A text in a notation: `wanted` names it, and `refusal` says why a text is
  not in it. -/
  | notated (wanted : String) (refusal : String → Option String)
  /-- One of some words, as a text or as the one member of an object. -/
  | word (words : List String)
  | list (item : Schema)
  /-- A list of two items. -/
  | couple (item : Schema)
  /-- An object of which every member has one shape, and every name another. -/
  | table (wanted : String) (name value : Schema)
  | record (name : String) (fields : List (String × Presence × Schema))
  | merged (name : String) (fields : List (String × Presence × Schema)) (others : List Schema)
  /-- The first of some shapes that a value has. -/
  | choice (name : String) (choices : List Schema)
  /-- A shape, or a truth value in its place. -/
  | orBoolean (shape : Schema)

/-- A field of a record. -/
abbrev Field := String × Presence × Schema

namespace Schema

/-! ## words for errors -/

/-- A count of elements. -/
def elements (n : Nat) : String :=
  Decimal.text n ++ (if n = 1 then " element" else " elements")

/-- A list of words to choose from. -/
def alternatives (words : List String) : String :=
  match words.map fun w => "`" ++ w ++ "`" with
  | [a] => a
  | [a, b] => a ++ " or " ++ b
  | ws => "one of " ++ String.intercalate ", " ws

/-- The error for an array with more elements than a record has fields.  It is
worded in another way for what was set aside. -/
def surplus (aside : Bool) (length fields : Nat) : ShapeError :=
  .wrongLength length
    (if aside then elements fields ++ " in sequence" else "fewer elements in array")

/-! ## checking -/

/-- The names of fields. -/
def names (fields : List Field) : List String := fields.map (·.1)

/-- Checks that no field is missing from members. -/
def checkPresence (fields : List Field) (members : List (String × Json)) :
    Except ShapeError Unit :=
  match fields.find? fun f => !f.2.1.admitsMissing && (lookup f.1 members).isNone with
  | some f => .error (.missing f.1)
  | none => .ok ()

/-- Checks that a value is nothing but a mark. -/
def checkMark (aside : Bool) : Json → Except ShapeError Unit
  | .null => .ok ()
  | .object [] => if aside then .ok () else .error (.wrongType (.object []) "unit")
  | v => .error (.wrongType v "unit")

/-- Checks a word. -/
def checkWord (words : List String) (w : String) : Except ShapeError Unit :=
  if w ∈ words then .ok ()
  else .error (.refused ("unknown variant `" ++ w ++ "`, expected " ++ alternatives words))

mutual

/-- Checks a value.  `aside` says that it was set aside before. -/
def check (aside : Bool) : Schema → Json → Except ShapeError Unit
  | .anything, _ => .ok ()
  | .boolean, v =>
    match v with
    | .bool _ => .ok ()
    | v => .error (.wrongType v "a boolean")
  | .text, v =>
    match v with
    | .string _ => .ok ()
    | v => .error (.wrongType v "a string")
  | .whole low high wanted, v =>
    match v with
    | .number (.whole n) => if low ≤ n ∧ n ≤ high then .ok () else .error (.wrongValue v wanted)
    | v => .error (.wrongType v wanted)
  | .number wanted, v =>
    match v with
    | .number _ => .ok ()
    | v => .error (.wrongType v wanted)
  | .notated wanted refusal, v =>
    match v with
    | .string s =>
      match refusal s with
      | none => .ok ()
      | some reason => .error (.refused reason)
    | v => .error (.wrongType v wanted)
  | .word words, v =>
    match v with
    | .string w => checkWord words w
    | .object [(w, mark)] => do
      checkWord words w
      checkMark aside mark
    | .object _ => .error (.wrongValue v "map with a single key")
    | v => .error (.wrongType v "string or map")
  | .list item, v =>
    match v with
    | .array items => items.forM (check aside item)
    | v => .error (.wrongType v "a sequence")
  | .couple item, v =>
    match v with
    | .array [a, b] => do
      check aside item a
      check aside item b
    | v => .error (.wrongType v "an array of length 2")
  | .table wanted name value, v =>
    match v with
    | .object members => members.forM fun m => do
      check aside name (.string m.1)
      check aside value m.2
    | v => .error (.wrongType v wanted)
  | .record name fields, v =>
    match v with
    | .object members => do
      members.forM fun m => checkMember aside fields m.1 m.2
      checkPresence fields members
    | .array items => do
      checkElements aside ("struct " ++ name ++ " with " ++ elements fields.length) fields 0 items
      if items.length > fields.length then throw (surplus aside items.length fields.length)
    | v => .error (.wrongType v ("struct " ++ name))
  | .merged name fields others, v =>
    match v with
    | .object members => do
      members.forM fun m => checkMember aside fields m.1 m.2
      checkPresence fields members
      checkOthers others (members.filter fun m => m.1 ∉ names fields)
    | v => .error (.wrongType v ("struct " ++ name))
  | .choice name choices, v =>
    if fitsAny choices v then .ok ()
    else .error (.refused ("data did not match any variant of untagged enum " ++ name))
  | .orBoolean shape, v =>
    match v with
    | .bool _ => .ok ()
    | v => check aside shape v

/-- Checks a member of an object; a name that no field has is passed over. -/
def checkMember (aside : Bool) : List Field → String → Json → Except ShapeError Unit
  | [], _, _ => .ok ()
  | (f, presence, shape) :: fields, name, v =>
    if f = name then
      match presence.admitsNull, v with
      | true, .null => .ok ()
      | _, v => check aside shape v
    else checkMember aside fields name v

/-- Checks the elements of an array against fields from the one with a number
on. -/
def checkElements (aside : Bool) (wanted : String) :
    List Field → Nat → List Json → Except ShapeError Unit
  | [], _, _ => .ok ()
  | (_, presence, shape) :: fields, index, items =>
    match items with
    | [] =>
      if presence.admitsEnd then checkElements aside wanted fields (index + 1) []
      else .error (.wrongLength index wanted)
    | v :: items => do
      match presence.admitsNull, v with
      | true, .null => pure ()
      | _, v => check aside shape v
      checkElements aside wanted fields (index + 1) items

/-- Checks members that were set aside against other records. -/
def checkOthers : List Schema → List (String × Json) → Except ShapeError Unit
  | [], _ => .ok ()
  | shape :: others, members => do
    match shape with
    | .record name fields =>
      check true (.record name fields) (.object (members.filter fun m => m.1 ∈ names fields))
    | shape => check true shape (.object members)
    checkOthers others members

/-- Whether a value has one of some shapes. -/
def fitsAny : List Schema → Json → Bool
  | [], _ => false
  | shape :: choices, v => (check true shape v).isOk || fitsAny choices v

end

/-! ## taking values apart -/

/-- The fields of a record. -/
def fields : Schema → List Field
  | .record _ fields => fields
  | .merged _ fields _ => fields
  | _ => []

/-- What a field of a record holds, unless that is null. -/
def get? (shape : Schema) (name : String) (v : Json) : Option Json :=
  let found := match v with
    | .object members => lookup name members
    | .array items => ((names shape.fields).idxOf? name).bind fun i => items[i]?
    | _ => none
  match found with
  | some .null => none
  | found => found

/-- The items of an array; other values have none. -/
def items : Json → List Json
  | .array items => items
  | _ => []

end Schema

end ChapelCheck.Json
