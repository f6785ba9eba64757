import ChapelCheck.Check
import ChapelCheck.Project.Includes

/-!
# ChapelCheck.Project

Checking a file as part of its project: the root is found, the directories to
search modules in are collected, and the compiler is run.
-/

namespace ChapelCheck

/-- The machine that checks run on: its files, and how programs are started. -/
structure Host where
  files : FileSystem
  start : Invocation → Except SystemError Finished

namespace Host

/-- The root of the project that a file belongs to. -/
def resolveRoot (h : Host) (target : Path) (known : Option Path) : Logged (Option Path) :=
  Project.resolveRoot h.files.isPresent h.files.workingDirectory target known

/-- The directories to search modules in for a file: none without a root. -/
def includesFor (h : Host) (target : Path) (known : Option Path) : Logged PathSet := do
  match ← h.resolveRoot target known with
  | some root =>
    Logged.tell (.rootChosen target root)
    Project.includePaths h.files root
  | none =>
    Logged.tell (.rootMissing target)
    return PathSet.empty

/-- The compiler of some settings on this machine. -/
def checker (h : Host) (s : Settings) : Checker := Checker.ofSettings h.start s

/-- The diagnostics of a file as part of its project, whose root may be known
already. -/
def diagnose (h : Host) (s : Settings) (target : Path) (known : Option Path) :
    Logged (Except StartError (List Diagnostic)) := do
  let includes ← h.includesFor target known
  (h.checker s).extract target includes

end Host

end ChapelCheck
