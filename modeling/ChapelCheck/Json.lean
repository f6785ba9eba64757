import ChapelCheck.Json.Binary64

/-!
# ChapelCheck.Json

JSON values: what an editor sends as settings, and every message of a session.
The members of an object stand in increasing order of their names, each name
once.
-/

namespace ChapelCheck

/-- A number, as its text was written: whole numbers of 64 bits are exact, all
others are floating-point numbers. -/
inductive JsonNumber where
  | whole (n : Int)
  | floating (x : Binary64)
deriving DecidableEq, Repr

/-- A JSON value. -/
inductive Json where
  | null
  | bool (b : Bool)
  | number (n : JsonNumber)
  | string (s : String)
  | array (items : List Json)
  | object (members : List (String × Json))
deriving Repr

namespace Json

/-- Puts a member where it belongs among members in increasing order; a member
of the same name gives way. -/
def putMember (name : String) (value : Json) : List (String × Json) → List (String × Json)
  | [] => [(name, value)]
  | (n, v) :: ms =>
    if name < n then (name, value) :: (n, v) :: ms
    else if name = n then (name, value) :: ms
    else (n, v) :: putMember name value ms

/-- The object with these members; of members with one name the last stays. -/
def ofMembers (ms : List (String × Json)) : Json :=
  .object (ms.foldl (fun sorted m => putMember m.1 m.2 sorted) [])

/-- The value of a name among members. -/
def lookup (name : String) (ms : List (String × Json)) : Option Json :=
  (ms.find? (·.1 = name)).map (·.2)

/-- The member of an object; other values have none. -/
def get? (name : String) : Json → Option Json
  | .object ms => lookup name ms
  | _ => none

/-- The whole number `n`. -/
def ofNat (n : Nat) : Json := .number (.whole n)

end Json

end ChapelCheck
