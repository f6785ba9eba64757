import ChapelCheck.Compiler
import ChapelCheck.Diagnostic
import ChapelCheck.Url

/-!
# ChapelCheck.Event

What the program logs.  An event says what happened; its level, its topic and
its message follow from that.
-/

namespace ChapelCheck

/-- How much an event matters. -/
inductive Level where
  | error
  | warn
  | info
  | debug
deriving DecidableEq, Repr

/-- The rank of a level; a log that shows a level shows those of lower rank. -/
def Level.rank : Level → Nat
  | .error => 1
  | .warn => 2
  | .info => 3
  | .debug => 4

/-- The name of a level in the log. -/
def Level.name : Level → String
  | .error => "ERROR"
  | .warn => "WARN"
  | .info => "INFO"
  | .debug => "DEBUG"

/-- The part of the program that an event comes from. -/
inductive Topic where
  /-- The steps of checking one file. -/
  | check
  /-- The start and the end of the compiler. -/
  | compiler
  /-- The search for a project's root. -/
  | root
  /-- What the editor asks for. -/
  | editor
  /-- The program as a whole. -/
  | program
deriving DecidableEq, Repr

/-- The name of a topic in the log, by which the log can be filtered. -/
def Topic.name : Topic → String
  | .check => "chapel_lsp::log"
  | .compiler => "chapel_lsp::compiler::invocation"
  | .root => "chapel_lsp::project::root"
  | .editor => "chapel_lsp::lsp::backend"
  | .program => "chapel_lsp::lsp::server"

/-- Something that happened. -/
inductive Event where
  /-- The root of a project was given. -/
  | rootKnown (root : Path)
  /-- A directory holds a manifest. -/
  | rootFound (root : Path)
  /-- The search ended at a repository without a manifest. -/
  | boundaryReached (directory : Path)
  /-- A relative path could not be searched from. -/
  | nowhere (target : Path) (cause : SystemError)
  /-- A file belongs to a project. -/
  | rootChosen (target root : Path)
  /-- A file belongs to no project. -/
  | rootMissing (target : Path)
  /-- A manifest is there but could not be read. -/
  | manifestUnreadable (manifest : Path) (cause : SystemError)
  /-- A directory below the sources could not be read. -/
  | entryUnreadable (entry : Path) (cause : SystemError)
  /-- The directories to search modules in are known. -/
  | includesCollected (count : Nat) (root : Path)
  /-- The compiler is about to start. -/
  | compilerRunning (invocation : Invocation)
  /-- The compiler has ended. -/
  | compilerEnded (program : String) (status : ExitStatus)
  /-- A line of the compiler has no line number. -/
  | lineSkipped (line : String) (cause : LineError)
  /-- The compiler accepted a file. -/
  | fileAccepted (target : Path)
  /-- The compiler rejected a file. -/
  | fileRejected (target : Path) (count : Nat)
  /-- The editor changed the settings. -/
  | settingsUpdated (settings : Settings)
  /-- The editor sent something that is no settings. -/
  | settingsIgnored (value : Json) (cause : Json.ShapeError)
  /-- The editor changed the workspace folders. -/
  | foldersChanged (folders : List Path)
  /-- The editor opened a document. -/
  | documentOpened (document : Url)
  /-- The editor changed a document. -/
  | documentChanged (document : Url)
  /-- A saved document is no file of this machine. -/
  | notAFile (document : Url)
  /-- The compiler could not be started on a saved document. -/
  | checkFailed (document : Url) (cause : StartError)
  /-- A check found issues in other files than the saved one. -/
  | othersDropped (count : Nat) (file : Path)
  /-- The program starts to serve an editor. -/
  | serverStarted (compiler : String)
  /-- The editor is gone. -/
  | serverStopped

namespace Event

open Text

/-- How much an event matters. -/
def level : Event → Level
  | .manifestUnreadable .. | .entryUnreadable .. | .lineSkipped .. | .checkFailed .. => .error
  | .settingsIgnored .. | .notAFile .. => .warn
  | .rootChosen .. | .rootMissing .. | .includesCollected .. | .fileAccepted .. | .fileRejected ..
  | .settingsUpdated .. | .foldersChanged .. | .serverStarted .. | .serverStopped => .info
  | .rootKnown .. | .rootFound .. | .boundaryReached .. | .nowhere .. | .compilerRunning ..
  | .compilerEnded .. | .documentOpened .. | .documentChanged .. | .othersDropped .. => .debug

/-- The part of the program that an event comes from. -/
def topic : Event → Topic
  | .rootKnown .. | .rootFound .. | .boundaryReached .. | .nowhere .. => .root
  | .rootChosen .. | .rootMissing .. | .manifestUnreadable .. | .entryUnreadable ..
  | .includesCollected .. | .lineSkipped .. | .fileAccepted .. | .fileRejected .. => .check
  | .compilerRunning .. | .compilerEnded .. => .compiler
  | .settingsUpdated .. | .settingsIgnored .. | .foldersChanged .. | .documentOpened ..
  | .documentChanged .. | .notAFile .. | .checkFailed .. | .othersDropped .. => .editor
  | .serverStarted .. | .serverStopped => .program

/-- What the log says about an event. -/
def message : Event → String
  | .rootKnown root => "Using known root " ++ root.quoted
  | .rootFound root => "Found project root " ++ root.quoted
  | .boundaryReached directory =>
    "Stopped root search at repository boundary " ++ directory.quoted
  | .nowhere target cause =>
    "Cannot resolve " ++ target.quoted ++ " without a working directory: " ++ cause.message
  | .rootChosen target root => "Project root for " ++ target.quoted ++ " is " ++ root.quoted
  | .rootMissing target => "No project root for " ++ target.quoted
  | .manifestUnreadable manifest cause =>
    "Failed to read " ++ manifest.quoted ++ ": " ++ cause.message
  | .entryUnreadable entry cause =>
    "Skipping unreadable entry: IO error for operation on " ++ entry.text ++ ": " ++ cause.message
  | .includesCollected count root =>
    "Collected " ++ Decimal.text count ++ " include paths under " ++ root.quoted
  | .compilerRunning invocation =>
    "Running " ++ invocation.program ++ " " ++ quotedList invocation.arguments
  | .compilerEnded program status => program ++ " exited with " ++ status.describe
  | .lineSkipped line cause => "Skipping compiler line " ++ quoted line ++ ": " ++ cause.message
  | .fileAccepted target => target.quoted ++ " checked without errors"
  | .fileRejected target count =>
    target.quoted ++ " produced " ++ Decimal.text count ++ " diagnostics"
  | .settingsUpdated settings => "Settings updated: " ++ settings.describe
  | .settingsIgnored value cause =>
    "Ignoring malformed settings " ++ value.render ++ ": " ++ cause.message
  | .foldersChanged folders => "Workspace folders: " ++ quotedList (folders.map Path.text)
  | .documentOpened document => "Document opened: " ++ document.text
  | .documentChanged document => "Document changed: " ++ document.text
  | .notAFile document => "Skipping diagnostics for non-file URI " ++ document.text
  | .checkFailed document cause =>
    "Diagnostics for " ++ document.text ++ " failed: " ++ cause.message
  | .othersDropped count file =>
    "Dropped " ++ Decimal.text count ++ " diagnostics for other files than " ++ file.quoted
  | .serverStarted compiler => "Starting chapel-lsp server with compiler " ++ quoted compiler
  | .serverStopped => "chapel-lsp server stopped"

end Event

end ChapelCheck
