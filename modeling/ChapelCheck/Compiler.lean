import ChapelCheck.Settings
import ChapelCheck.SystemError

/-!
# ChapelCheck.Compiler

The compiler as a program that is started on one file: what it is started with,
what it leaves behind, and which files are its own.

```
<program> <target> --no-codegen --baseline -M <directory> -M <directory> ...
```
-/

namespace ChapelCheck

/-- The start of a program. -/
structure Invocation where
  program : String
  arguments : List String
  /-- The value of `CHPL_HOME` that is set for the program, besides the
  variables it inherits. -/
  home : Option Path
deriving DecidableEq, Repr

/-- How a program ended. -/
inductive ExitStatus where
  | code (n : Nat)
  | signal (n : Nat)
deriving DecidableEq, Repr

/-- What a program that was started left behind: how it ended, and the octets
that it wrote to its error channel. -/
structure Finished where
  status : ExitStatus
  errors : List UInt8
deriving DecidableEq, Repr

/-- What one check of a file produced. -/
structure Output where
  /-- Whether the compiler accepted the file. -/
  success : Bool
  /-- What the compiler wrote to its error channel. -/
  text : String
deriving DecidableEq, Repr

/-- The compiler could not be started. -/
structure StartError where
  program : String
  cause : SystemError
deriving DecidableEq, Repr

/-- The wording of a failed start. -/
def StartError.message (e : StartError) : String :=
  "Failed to start compiler `" ++ e.program ++ "`: " ++ e.cause.message

namespace ExitStatus

/-- Whether a program ended well. -/
def isSuccess (s : ExitStatus) : Bool := s = .code 0

/-- The names of the signals. -/
def signalNames : List (Nat × String) :=
  [(1, "SIGHUP"), (2, "SIGINT"), (3, "SIGQUIT"), (4, "SIGILL"), (5, "SIGTRAP"),
    (6, "SIGABRT"), (7, "SIGBUS"), (8, "SIGFPE"), (9, "SIGKILL"), (10, "SIGUSR1"),
    (11, "SIGSEGV"), (12, "SIGUSR2"), (13, "SIGPIPE"), (14, "SIGALRM"), (15, "SIGTERM"),
    (16, "SIGSTKFLT"), (17, "SIGCHLD"), (18, "SIGCONT"), (19, "SIGSTOP"), (20, "SIGTSTP"),
    (21, "SIGTTIN"), (22, "SIGTTOU"), (23, "SIGURG"), (24, "SIGXCPU"), (25, "SIGXFSZ"),
    (26, "SIGVTALRM"), (27, "SIGPROF"), (28, "SIGWINCH"), (29, "SIGIO"), (30, "SIGPWR"),
    (31, "SIGSYS")]

/-- An exit status as messages show it. -/
def describe : ExitStatus → String
  | .code n => "exit status: " ++ Text.Decimal.text n
  | .signal n =>
    "signal: " ++ Text.Decimal.text n ++
      ((signalNames.lookup n).map fun name => " (" ++ name ++ ")").getD ""

end ExitStatus

namespace Compiler

/-- The flags that ask for a check only, with output that does not depend on
local defaults. -/
def checkFlags : List String := ["--no-codegen", "--baseline"]

/-- The flag before each directory that modules are searched in. -/
def moduleFlag : String := "-M"

/-- The arguments for checking a file. -/
def arguments (target : Path) (includes : List Path) : List String :=
  target.text :: checkFlags ++ includes.flatMap fun p => [moduleFlag, p.text]

/-- The start of the compiler on a file. -/
def invocation (s : Settings) (target : Path) (includes : List Path) : Invocation where
  program := s.compiler
  arguments := arguments target includes
  home := s.home

/-- Where the modules that come with the compiler are, below its home. -/
def modulesDirectory : String := "modules"

/-- Whether a file is one of the modules that come with the compiler at
`home`. -/
def owns (home : Option Path) (file : Path) : Bool :=
  match home with
  | none => false
  | some h => file.startsWith (h.child modulesDirectory)

end Compiler

end ChapelCheck
