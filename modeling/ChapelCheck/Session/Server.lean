import ChapelCheck.Editor.Diagnostic
import ChapelCheck.Project

/-!
# ChapelCheck.Session.Server

What the server does with each call of an editor.  It remembers the settings
and the workspace folders, and nothing else: documents are read from the file
system when they are saved, and no check leaves anything behind.
-/

namespace ChapelCheck

/-- What an editor asks for, or tells. -/
inductive Call where
  /-- The session begins.  The folders are those of the workspace, and the root
  is what older editors send in their place. -/
  | began (options : Option Json) (folders : Option (List Url)) (root : Option Url)
  | initialized
  | shutdown
  | foldersChanged (added removed : List Url)
  | configurationChanged (settings : Json)
  | opened (document : Url)
  | changed (document : Url)
  | saved (document : Url)
  | closed (document : Url)

/-- How much a message to the editor matters. -/
inductive Weight where
  | error
  | info
  | log
deriving DecidableEq, Repr

/-- The number an editor knows a weight by. -/
def Weight.number : Weight → Nat
  | .error => 1
  | .info => 3
  | .log => 4

/-- What the server sends to the editor on its own account. -/
inductive Outgoing where
  | message (weight : Weight) (text : String)
  /-- The diagnostics of a document, in place of those sent before. -/
  | publish (document : Url) (diagnostics : List Editor.Diagnostic)
deriving DecidableEq, Repr

/-- What the server remembers. -/
structure Server where
  settings : Settings
  folders : List Path
deriving DecidableEq, Repr

namespace Server

/-- A server before its session begins. -/
def ofSettings (s : Settings) : Server := ⟨s, []⟩

/-! ## workspace folders -/

/-- The better of two folders for a file: the one with more components, and of
equals the later one. -/
def deeper (best : Option Path) (folder : Path) : Option Path :=
  match best with
  | none => some folder
  | some b => if b.components.length ≤ folder.components.length then some folder else some b

/-- The innermost folder that a path lies in. -/
def innermost (folders : List Path) (p : Path) : Option Path :=
  (folders.filter fun folder => p.startsWith folder).foldl deeper none

/-- The folders of a session's beginning: the workspace's if they are given,
even if there are none, and else the root. -/
def initialFolders (folders : Option (List Url)) (root : Option Url) : List Path :=
  (folders.getD root.toList).filterMap Url.filePath?

/-- Folders without one. -/
def removeFolder (folders : List Path) (p : Path) : List Path :=
  folders.filter fun folder => !decide (folder.Same p)

/-- Folders with one more, unless it is there already. -/
def addFolder (folders : List Path) (p : Path) : List Path :=
  if folders.any fun folder => folder.Same p then folders else folders ++ [p]

/-- Folders after a change: what is removed goes first, and what is added comes
after that. -/
def changeFolders (folders : List Path) (added removed : List Url) : List Path :=
  (added.filterMap Url.filePath?).foldl addFolder
    ((removed.filterMap Url.filePath?).foldl removeFolder folders)

/-! ## settings -/

/-- The settings after the editor has sent some; what is no settings is logged
and changes nothing. -/
def applySettings (s : Settings) (value : Json) : Logged Settings :=
  match Override.read value with
  | .ok override => do
    let updated := s.apply override
    Logged.tell (.settingsUpdated updated)
    return updated
  | .error cause => do
    Logged.tell (.settingsIgnored value cause)
    return s

/-- The settings after the options of a session's beginning. -/
def applyOptions (s : Settings) : Option Json → Logged Settings
  | none => return s
  | some value => applySettings s value

/-! ## checking -/

/-- The diagnostics of a file of this machine.  A root above the file is taken
before the workspace folder that the file lies in. -/
def diagnose (h : Host) (s : Server) (file : Path) : Logged (Except StartError (List Diagnostic)) := do
  let found ← h.resolveRoot file none
  h.diagnose s.settings file (found.or (innermost s.folders file))

/-- What is sent when a check of a document has ended. -/
def report (document : Url) (file : Path) :
    Except StartError (List Diagnostic) → Logged (List Outgoing)
  | .error cause => do
    Logged.tell (.checkFailed document cause)
    return [.message .error
      ("chapel-lsp: cannot check " ++ document.text ++ ": " ++ cause.message)]
  | .ok found => do
    let shown := Editor.Diagnostic.forFile found file
    let others := found.length - shown.length
    if others > 0 then Logged.tell (.othersDropped others file)
    return [
      .message .log ("Publishing " ++ Text.Decimal.text shown.length ++ " diagnostics for " ++
        document.text),
      .publish document shown]

/-- Checks a document that was saved. -/
def check (h : Host) (s : Server) (document : Url) : Logged (List Outgoing) :=
  match document.filePath? with
  | none => do
    Logged.tell (.notAFile document)
    return []
  | some file => do
    let result ← diagnose h s file
    report document file result

/-! ## calls -/

/-- What a call makes of the server, and what is sent for it. -/
def handle (h : Host) (s : Server) : Call → Logged (Server × List Outgoing)
  | .began options folders root => do
    let settings ← applyOptions s.settings options
    return (⟨settings, initialFolders folders root⟩, [.message .info "LSP server initializing"])
  | .initialized => return (s, [.message .info "LSP server initialized"])
  | .shutdown => return (s, [.message .info "LSP server shutting down"])
  | .foldersChanged added removed => do
    let folders := changeFolders s.folders added removed
    Logged.tell (.foldersChanged folders)
    return ({ s with folders := folders }, [])
  | .configurationChanged value => do
    let settings ← applySettings s.settings value
    return ({ s with settings := settings }, [])
  | .opened document => do
    Logged.tell (.documentOpened document)
    return (s, [])
  | .changed document => do
    Logged.tell (.documentChanged document)
    return (s, [])
  | .saved document => do
    let sent ← check h s document
    return (s, .message .log ("Document saved: " ++ document.text) :: sent)
  | .closed document => return (s, [.publish document []])

end Server

end ChapelCheck
