import ChapelCheck.Text.Decimal
import ChapelCheck.Text.Hexadecimal
import ChapelCheck.Text.Unprinted

/-!
# ChapelCheck.Text.Quoted

Quoted text, as messages show it: between double quotes, with a backslash
before a double quote and a backslash, short escapes for the tabulator, the
line ends and NUL, and `\u` with the code point in braces for every other
character without a printed form.
-/

namespace ChapelCheck.Text

/-- How one character is written inside quotes. -/
def quotedChar (c : Char) : List Char :=
  match c with
  | '"' => ['\\', '"']
  | '\\' => ['\\', '\\']
  | '\t' => ['\\', 't']
  | '\r' => ['\\', 'r']
  | '\n' => ['\\', 'n']
  | '\x00' => ['\\', '0']
  | c => if isUnprinted c then '\\' :: 'u' :: '\x7b' :: (hexDigits c.toNat ++ ['\x7d']) else [c]

/-- A text between double quotes. -/
def quoted (s : String) : String :=
  String.ofList ('"' :: (s.toList.flatMap quotedChar ++ ['"']))

/-- Quoted texts in brackets, with a comma and a space between them. -/
def quotedList (ss : List String) : String :=
  "[" ++ String.intercalate ", " (ss.map quoted) ++ "]"

/-- An optional text: `Some("...")` or `None`. -/
def quotedOption : Option String → String
  | some s => "Some(" ++ quoted s ++ ")"
  | none => "None"

end ChapelCheck.Text
