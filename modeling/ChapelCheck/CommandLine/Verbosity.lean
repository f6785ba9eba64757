import ChapelCheck.Event

/-!
# ChapelCheck.CommandLine.Verbosity

How much is logged, as it is chosen on the command line.
-/

namespace ChapelCheck

/-- How much is logged. -/
inductive Verbosity where
  /-- There is no log file at all. -/
  | off
  | error
  | warn
  | info
  | debug
deriving DecidableEq, Repr

namespace Verbosity

/-- The choices in the order in which help lists them. -/
def choices : List Verbosity := [.off, .error, .warn, .info, .debug]

/-- The name of a choice. -/
def name : Verbosity → String
  | .off => "off"
  | .error => "error"
  | .warn => "warn"
  | .info => "info"
  | .debug => "debug"

/-- All names of a choice. -/
def names : Verbosity → List String
  | .off => ["off", "none"]
  | v => [v.name]

/-- A text with its ASCII letters in lower case. -/
def lowerCase (s : String) : String := String.ofList (s.toList.map Char.toLower)

/-- The choice that a text names, in any letter case if that is asked for. -/
def ofText? (ignoreCase : Bool) (s : String) : Option Verbosity :=
  let word := if ignoreCase then lowerCase s else s
  choices.find? fun v => word ∈ v.names

/-- The level up to which a choice shows events. -/
def level? : Verbosity → Option Level
  | .off => none
  | .error => some .error
  | .warn => some .warn
  | .info => some .info
  | .debug => some .debug

end Verbosity

end ChapelCheck
