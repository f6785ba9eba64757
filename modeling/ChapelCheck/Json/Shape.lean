import ChapelCheck.Json.Render
import ChapelCheck.Text.Quoted

/-!
# ChapelCheck.Json.Shape

Reading values of a known shape out of JSON: why a value has the wrong shape,
how that is worded, and the readers that several shapes share.
-/

namespace ChapelCheck.Json

open Text

/-- What a value is, in the words of an error message. -/
def description : Json → String
  | .null => "null"
  | .bool b => "boolean `" ++ (if b then "true" else "false") ++ "`"
  | .number (.whole n) => "integer `" ++ Decimal.intText n ++ "`"
  | .number (.floating x) => "floating point `" ++ x.compactText ++ "`"
  | .string s => "string " ++ quoted s
  | .array _ => "sequence"
  | .object _ => "map"

/-- Why a value has the wrong shape. -/
inductive ShapeError where
  /-- A value of another type than the wanted one. -/
  | wrongType (found : Json) (wanted : String)
  /-- A value of the right type, but outside the wanted ones. -/
  | wrongValue (found : Json) (wanted : String)
  /-- An array of another length than the wanted one. -/
  | wrongLength (length : Nat) (wanted : String)
  /-- An object lacks a member. -/
  | missing (name : String)
  /-- A value that the shape rules out for a reason of its own. -/
  | refused (reason : String)

/-- The wording of a shape error. -/
def ShapeError.message : ShapeError → String
  | .wrongType found wanted =>
    "invalid type: " ++ found.description ++ ", expected " ++ wanted
  | .wrongValue found wanted =>
    "invalid value: " ++ found.description ++ ", expected " ++ wanted
  | .wrongLength length wanted =>
    "invalid length " ++ Decimal.text length ++ ", expected " ++ wanted
  | .missing name => "missing field `" ++ name ++ "`"
  | .refused reason => reason

/-- A reader of one shape. -/
abbrev Reader (α : Type) := Json → Except ShapeError α

/-- A text; `wanted` is what the error asks for. -/
def readText (wanted : String) : Reader String
  | .string s => .ok s
  | v => .error (.wrongType v wanted)

/-- A value of a shape, or null. -/
def optional {α : Type} (read : Reader α) : Reader (Option α)
  | .null => .ok none
  | v => (read v).map some

end ChapelCheck.Json
