import ChapelCheck.Path
import ChapelCheck.Text.Blank
import ChapelCheck.Json.Shape

/-!
# ChapelCheck.Settings

Which compiler is run, and where it is installed.  Settings start from the
process environment; the editor may send overrides at any time, and each field
of an override that is present replaces the field of the settings.
-/

namespace ChapelCheck

/-- The settings of every check. -/
structure Settings where
  /-- The compiler's name or path. -/
  compiler : String
  /-- The installation of the compiler, which it is told as `CHPL_HOME`. -/
  home : Option Path
deriving DecidableEq, Repr

/-- The fields of the settings that the editor wants changed. -/
structure Override where
  compiler : Option String
  home : Option Path
deriving DecidableEq, Repr

namespace Settings

/-- The compiler that is run unless another one is chosen. -/
def defaultCompiler : String := "chpl"

/-- The settings without any choice made. -/
def default : Settings := ⟨defaultCompiler, none⟩

/-- The settings of a process: the compiler given on the command line, and the
value of the variable `CHPL_HOME`, where an empty value counts as none. -/
def ofEnvironment (compiler home : Option String) : Settings where
  compiler := compiler.getD defaultCompiler
  home := (home.filter (· ≠ "")).map Path.mk

/-- Puts the fields of an override in.  A compiler that is only blanks is left
out. -/
def apply (s : Settings) (o : Override) : Settings where
  compiler := (o.compiler.filter fun c => !Text.isBlankText c).getD s.compiler
  home := o.home.or s.home

/-- The settings as messages show them. -/
def describe (s : Settings) : String :=
  "Settings \x7b compiler: " ++ Text.quoted s.compiler ++ ", chpl_home: " ++
    Text.quotedOption (s.home.map Path.text) ++ " \x7d"

end Settings

namespace Override

/-- The part of a value that holds the settings: its member `chapel` if it has
one, and else the whole value. -/
def sectionOf (v : Json) : Json := (v.get? "chapel").getD v

/-- A compiler, or null. -/
def readCompiler : Json.Reader (Option String) := Json.optional (Json.readText "a string")

/-- An installation directory, or null. -/
def readHome : Json.Reader (Option Path) :=
  Json.optional fun v => (Json.readText "path string" v).map Path.mk

/-- Reads an optional field that may be missing. -/
def field {α : Type} (read : Json.Reader (Option α)) : Option Json → Except Json.ShapeError (Option α)
  | none => .ok none
  | some v => read v

/-- Reads the section of an override: an object with the members `compiler` and
`chplHome`, or an array of these two. -/
def readSection : Json.Reader Override
  | .object members => do
    -- members are looked at in the order of their names
    let home ← field readHome (Json.lookup "chplHome" members)
    let compiler ← field readCompiler (Json.lookup "compiler" members)
    return ⟨compiler, home⟩
  | .array items => do
    let compiler ← field readCompiler items[0]?
    let home ← field readHome items[1]?
    if items.length > 2 then
      throw (.wrongLength items.length "fewer elements in array")
    return ⟨compiler, home⟩
  | v => .error (.wrongType v "struct SettingsOverride")

/-- Reads an override as an editor sends it. -/
def read (v : Json) : Except Json.ShapeError Override := readSection (sectionOf v)

end Override

end ChapelCheck
