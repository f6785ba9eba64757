import ChapelCheck.CommandLine.Verbosity
import ChapelCheck.Path
import ChapelCheck.Text.Split

/-!
# ChapelCheck.CommandLine.Options

Reading the command line.

```
chapel-lsp [--compiler <PATH>] [--logging <LOGGING>] [--log-file <PATH>] [--stdio]
```

A value stands behind an equals sign or in the next argument.  In the second
case it is looked at only when the next option begins or the line ends, and an
unknown argument, or a value for an option that takes none, is reported before
that.
-/

namespace ChapelCheck.CommandLine

/-- An option with a value. -/
inductive Valued where
  | compiler
  | logging
  | logFile
deriving DecidableEq, Repr

/-- An option without one. -/
inductive Flag where
  | stdio
  | help
  | version
deriving DecidableEq, Repr

/-- Any option. -/
inductive Opt where
  | valued (v : Valued)
  | flag (f : Flag)
deriving DecidableEq, Repr

/-- The long name of an option with a value. -/
def Valued.name : Valued → String
  | .compiler => "compiler"
  | .logging => "logging"
  | .logFile => "log-file"

/-- The long name of an option without one. -/
def Flag.name : Flag → String
  | .stdio => "stdio"
  | .help => "help"
  | .version => "version"

/-- An option as messages show it. -/
def Opt.display : Opt → String
  | .valued .compiler => "--compiler <PATH>"
  | .valued .logging => "--logging <LOGGING>"
  | .valued .logFile => "--log-file <PATH>"
  | .flag f => "--" ++ f.name

/-- What the command line chooses. -/
structure Options where
  compiler : Option String
  logging : Option Verbosity
  logFile : Option Path
  stdio : Bool
deriving DecidableEq, Repr

/-- The options that nothing is chosen in. -/
def Options.none : Options := ⟨Option.none, Option.none, Option.none, false⟩

/-- What is wrong with a command line. -/
inductive ArgumentError where
  /-- An argument that nothing takes; one with two dashes is reported with the
  options before it. -/
  | unexpected (argument : String) (before : List Opt)
  | repeated (option : Opt)
  | valueMissing (option : Valued)
  | unknownLevel (value : String)
  /-- A value for an option that takes none, with the options before it. -/
  | valueUnwanted (value : String) (flag : Flag) (before : List Opt)
deriving DecidableEq, Repr

/-- Why there is nothing to serve. -/
inductive Halt where
  | help (long : Bool)
  | version
  | invalid (cause : ArgumentError)
deriving DecidableEq, Repr

/-- A command line that has been read in part. -/
structure Reading where
  options : Options
  /-- The options that are set, in order. -/
  seen : List Opt
  /-- An option that waits for its value, or whose value is not looked at yet. -/
  pending : Option (Valued × Option String)
  /-- Whether two dashes have ended the options. -/
  ended : Bool

namespace Reading

/-- Before the first argument. -/
def start : Reading := ⟨Options.none, [], none, false⟩

/-- The options with one value put in. -/
def put (o : Options) (v : Valued) (value : String) : Except Halt Options :=
  match v with
  | .compiler => .ok { o with compiler := some value }
  | .logFile =>
    if value = "" then .error (.invalid (.valueMissing v))
    else .ok { o with logFile := some ⟨value⟩ }
  | .logging =>
    if value = "" then .error (.invalid (.valueMissing v))
    else
      match Verbosity.ofText? false value with
      | some l => .ok { o with logging := some l }
      | none => .error (.invalid (.unknownLevel value))

/-- Sets an option: it needs a value, then it must be new, and then its value
must be right. -/
def set (r : Reading) (v : Valued) (value : Option String) : Except Halt Reading :=
  match value with
  | none => .error (.invalid (.valueMissing v))
  | some value =>
    if .valued v ∈ r.seen then .error (.invalid (.repeated (.valued v)))
    else
      (put r.options v value).map fun o =>
        { r with options := o, seen := r.seen ++ [.valued v] }

/-- Sets the option that is pending. -/
def settle (r : Reading) : Except Halt Reading :=
  match r.pending with
  | none => .ok r
  | some (v, value) => ({ r with pending := none }).set v value

/-- The options that are set once the pending one is, whatever comes of it: one
without a value is not set, one that is set already no longer is, and a wrong
value does not matter. -/
def seenSettled (r : Reading) : List Opt :=
  match r.pending with
  | some (v, some _) =>
    if .valued v ∈ r.seen then r.seen.filter (· ≠ .valued v) else r.seen ++ [.valued v]
  | _ => r.seen

/-- An option without a value. -/
def flag (r : Reading) (f : Flag) (long : Bool) : Except Halt Reading := do
  let r ← r.settle
  match f with
  | .help => .error (.help long)
  | .version => .error .version
  | .stdio =>
    if .flag .stdio ∈ r.seen then .error (.invalid (.repeated (.flag .stdio)))
    else .ok { r with options := { r.options with stdio := true }, seen := r.seen ++ [.flag .stdio] }

/-- An argument that starts with two dashes, without them. -/
def long (r : Reading) (text : List Char) : Except Halt Reading :=
  let (nameText, valueText) := Text.cut '=' text
  let name := String.ofList nameText
  let value := valueText.map String.ofList
  match [Valued.compiler, .logging, .logFile].find? (·.name = name) with
  | some v =>
    r.settle.bind fun r =>
      match value with
      | some _ => r.set v value
      | none => .ok { r with pending := some (v, none) }
  | none =>
    match [Flag.stdio, .help, .version].find? (·.name = name) with
    | some f =>
      match value with
      | some value => .error (.invalid (.valueUnwanted value f r.seen))
      | none => r.flag f true
    | none => .error (.invalid (.unexpected ("--" ++ name) r.seenSettled))

/-- An argument that starts with one dash: its first letter. -/
def short (r : Reading) (letter : Char) : Except Halt Reading :=
  match letter with
  | 'h' => r.flag .help false
  | 'V' => r.flag .version false
  | c => .error (.invalid (.unexpected ("-" ++ c.toString) []))

/-- An argument that is no option: the value of the one before it. -/
def plain (r : Reading) (argument : String) : Except Halt Reading :=
  match r.pending with
  | some (v, none) => .ok { r with pending := some (v, some argument) }
  | _ => .error (.invalid (.unexpected argument []))

/-- One argument. -/
def step (r : Reading) (argument : String) : Except Halt Reading :=
  if r.ended then .error (.invalid (.unexpected argument []))
  else
    match argument.toList with
    | ['-', '-'] => .ok { r with ended := true }
    | '-' :: '-' :: text => r.long text
    | '-' :: letter :: _ => r.short letter
    | _ => r.plain argument

end Reading

/-- Reads a command line. -/
def Options.read (arguments : List String) : Except Halt Options := do
  let r ← arguments.foldlM Reading.step Reading.start
  return (← r.settle).options

end ChapelCheck.CommandLine
