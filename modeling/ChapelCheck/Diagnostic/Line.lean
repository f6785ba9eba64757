import ChapelCheck.Text.Blank
import ChapelCheck.Diagnostic

/-!
# ChapelCheck.Diagnostic.Line

Diagnostics as lines of compiler output:

```
<file>:<line>:<kind>:<message>
```

Blanks around the four fields say nothing.  The message is everything after
the third colon and may hold colons itself; it may also be missing, with its
colon.  `parse` reads such a line and `render` writes one.
-/

namespace ChapelCheck.Diagnostic

open Text

/-! ## reading -/

/-- The line number a field stands for: a decimal number of at most 32 bits. -/
def lineNumber? (field : List Char) : Option UInt32 :=
  (Decimal.read? field).bind fun n => if n < UInt32.size then some (UInt32.ofNat n) else none

/-- The diagnostic of four fields, of which the second must be a line number. -/
def ofFields (file number kind message : List Char) : Except LineError Diagnostic :=
  match lineNumber? (trim number) with
  | none => .error (.invalidLineNumber (String.ofList (trim number)))
  | some n => .ok {
      kind := String.ofList (trim kind)
      file := ⟨String.ofList (trim file)⟩
      line := n
      message := String.ofList (trim message) }

/-- Reads the characters of a line, cut into fields at its first three colons. -/
def parseChars (line : List Char) : Except LineError Diagnostic :=
  match cut ':' line with
  | (_, none) => .error .tooFewFields
  | (file, some rest) =>
    match cut ':' rest with
    | (_, none) => .error .tooFewFields
    | (number, some rest) =>
      ofFields file number (cut ':' rest).1 ((cut ':' rest).2.getD [])

/-- Reads a line of compiler output. -/
def parse (line : String) : Except LineError Diagnostic := parseChars line.toList

/-! ## writing -/

/-- The line that stands for a diagnostic. -/
def render (d : Diagnostic) : String :=
  d.file.text ++ ":" ++ Decimal.text d.line.toNat ++ ":" ++ d.kind ++ ":" ++ d.message

end ChapelCheck.Diagnostic
