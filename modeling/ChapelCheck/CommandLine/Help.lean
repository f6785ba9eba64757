import ChapelCheck.CommandLine.Options

/-!
# ChapelCheck.CommandLine.Help

The texts that the command line answers with when there is nothing to serve.
-/

namespace ChapelCheck.CommandLine

/-- Lines, each with its end. -/
def textOfLines (ls : List String) : String := String.join (ls.map (· ++ "\n"))

/-- The version. -/
def versionText : String := "chapel-lsp 0.1.0\n"

/-- What the program is. -/
def purpose : String :=
  "A Language Server Protocol adapter that reports Chapel compiler errors as editor diagnostics"

/-- How the program is called. -/
def usage : String := "Usage: chapel-lsp [OPTIONS]"

/-- How the program is called with some options. -/
def usageWith (shown : List String) : String :=
  "Usage: chapel-lsp " ++ String.intercalate " " shown

/-- The options that say how to serve. -/
def serving : List Opt := [.valued .compiler, .valued .logging, .valued .logFile, .flag .stdio]

/-- The choice between the options that say how to serve. -/
def servingText : String := "<" ++ String.intercalate "|" (serving.map Opt.display) ++ ">"

/-- The short help. -/
def shortHelp : String := textOfLines [
  purpose,
  "",
  usage,
  "",
  "Options:",
  "      --compiler <PATH>    Compiler executable to run on save",
  "      --logging <LOGGING>  Log verbosity; defaults to RUST_LOG, then info " ++
    "[possible values: off, error, warn, info, debug]",
  "      --log-file <PATH>    Log file location",
  "      --stdio              Communicate over stdio (the only supported transport)",
  "  -h, --help               Print help (see more with '--help')",
  "  -V, --version            Print version"]

/-- The long help. -/
def longHelp : String := textOfLines [
  purpose,
  "",
  usage,
  "",
  "Options:",
  "      --compiler <PATH>",
  "          Compiler executable to run on save",
  "",
  "      --logging <LOGGING>",
  "          Log verbosity; defaults to RUST_LOG, then info",
  "",
  "          Possible values:",
  "          - off:   Write no log file at all",
  "          - error",
  "          - warn",
  "          - info",
  "          - debug",
  "",
  "      --log-file <PATH>",
  "          Log file location",
  "",
  "      --stdio",
  "          Communicate over stdio (the only supported transport)",
  "",
  "  -h, --help",
  "          Print help (see a summary with '-h')",
  "",
  "  -V, --version",
  "          Print version"]

/-- The line that lists the levels. -/
def levelLine : String :=
  "  [possible values: " ++ String.intercalate ", " (Verbosity.choices.map Verbosity.name) ++ "]"

/-- The lines that say what is wrong. -/
def ArgumentError.lines : ArgumentError → List String
  | .unexpected argument _ => ["error: unexpected argument '" ++ argument ++ "' found"]
  | .repeated option =>
    ["error: the argument '" ++ option.display ++ "' cannot be used multiple times"]
  | .valueMissing v =>
    ("error: a value is required for '" ++ (Opt.valued v).display ++ "' but none was supplied") ::
      (if v = .logging then [levelLine] else [])
  | .unknownLevel value =>
    ["error: invalid value '" ++ value ++ "' for '" ++ (Opt.valued .logging).display ++ "'",
      levelLine]
  | .valueUnwanted value f _ =>
    ["error: unexpected value '" ++ value ++ "' for '" ++ (Opt.flag f).display ++
      "' found; no more were expected"]

/-- The line on how the program is called, where an error shows one.  Next to an
unwanted value, options before it are shown as the choice they are from. -/
def ArgumentError.usage? : ArgumentError → Option String
  | .unexpected _ [] => some usage
  | .unexpected _ before => some (usageWith (before.map Opt.display))
  | .repeated _ => some usage
  | .valueMissing _ => none
  | .unknownLevel _ => none
  | .valueUnwanted _ f [] => some (usageWith [(Opt.flag f).display])
  | .valueUnwanted _ f _ =>
    some (usageWith ((if .flag f ∈ serving then [] else [(Opt.flag f).display]) ++ [servingText]))

/-- The whole text of an error. -/
def ArgumentError.text (e : ArgumentError) : String :=
  textOfLines (e.lines ++ [""] ++ (e.usage?.map fun u => [u, ""]).getD [] ++
    ["For more information, try '--help'."])

/-- What is written to the output instead of serving. -/
def Halt.output : Halt → String
  | .help true => longHelp
  | .help false => shortHelp
  | .version => versionText
  | .invalid _ => ""

/-- What is written to the error channel instead of serving. -/
def Halt.errors : Halt → String
  | .invalid cause => cause.text
  | _ => ""

/-- The exit code when there is nothing to serve. -/
def Halt.code : Halt → Nat
  | .invalid _ => 2
  | _ => 0

end ChapelCheck.CommandLine
