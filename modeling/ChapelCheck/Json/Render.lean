import ChapelCheck.Json
import ChapelCheck.Text.Quoted

/-!
# ChapelCheck.Json.Render

JSON values as compact text: no blanks between tokens, and in strings escapes
only where JSON asks for them.
-/

namespace ChapelCheck.Json

open Text

/-- How one character is written in a JSON string. -/
def stringChar (c : Char) : List Char :=
  match c with
  | '"' => ['\\', '"']
  | '\\' => ['\\', '\\']
  | '\x08' => ['\\', 'b']
  | '\x0c' => ['\\', 'f']
  | '\n' => ['\\', 'n']
  | '\r' => ['\\', 'r']
  | '\t' => ['\\', 't']
  | c =>
    if c.toNat < 0x20 then
      let digits := hexDigits c.toNat
      '\\' :: 'u' :: (List.replicate (4 - digits.length) '0' ++ digits)
    else [c]

/-- A JSON string with its quotes. -/
def stringText (s : String) : String :=
  String.ofList ('"' :: (s.toList.flatMap stringChar ++ ['"']))

/-- The text of a number. -/
def numberText : JsonNumber → String
  | .whole n => Decimal.intText n
  | .floating x => x.compactText

mutual

/-- The compact text of a value. -/
def render : Json → String
  | .null => "null"
  | .bool true => "true"
  | .bool false => "false"
  | .number n => numberText n
  | .string s => stringText s
  | .array items => "[" ++ String.intercalate "," (renderItems items) ++ "]"
  | .object members => "\x7b" ++ String.intercalate "," (renderMembers members) ++ "\x7d"

/-- The texts of an array's items. -/
def renderItems : List Json → List String
  | [] => []
  | v :: vs => render v :: renderItems vs

/-- The texts of an object's members. -/
def renderMembers : List (String × Json) → List String
  | [] => []
  | (n, v) :: ms => (stringText n ++ ":" ++ render v) :: renderMembers ms

end

end ChapelCheck.Json
