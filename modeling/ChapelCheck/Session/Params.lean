import ChapelCheck.Session.Capabilities
import ChapelCheck.Session.Server

/-!
# ChapelCheck.Session.Params

Reading the parameters of the calls that the server acts on.  The parameters are
checked as a whole before anything is taken from them, since a call whose
parameters have the wrong shape is refused as a whole.
-/

namespace ChapelCheck.Params

open Json (Schema Reader ShapeError)

/-! ## shapes -/

/-- The parameters of a session's beginning. -/
def beginning : Schema :=
  .record "InitializeParams"
    [optional "processId" unsigned, optional "rootPath" .text, lenient "rootUri" url,
      optional "initializationOptions" .anything, required "capabilities" capabilities,
      lenient "trace" (.word ["off", "messages", "verbose"]),
      optional "workspaceFolders" (.list folder),
      optional "clientInfo"
        (.record "ClientInfo" [required "name" .text, optional "version" .text]),
      optional "locale" .text]

/-- The folders that came and went. -/
def folderEvent : Schema :=
  .record "WorkspaceFoldersChangeEvent"
    [required "added" (.list folder), required "removed" (.list folder)]

/-- The parameters of a change of the workspace folders. -/
def folderChange : Schema :=
  .record "DidChangeWorkspaceFoldersParams" [required "event" folderEvent]

/-- The parameters of a change of the settings. -/
def settingsChange : Schema :=
  .record "DidChangeConfigurationParams" [required "settings" .anything]

/-- The parameters of opening a document. -/
def opening : Schema :=
  .record "DidOpenTextDocumentParams" [required "textDocument" wholeDocument]

/-- A change of a document's text. -/
def contentChange : Schema :=
  .record "TextDocumentContentChangeEvent"
    [optional "range" range, optional "rangeLength" unsigned, required "text" .text]

/-- The parameters of changing a document. -/
def changing : Schema :=
  .record "DidChangeTextDocumentParams"
    [required "textDocument" versionedDocument, required "contentChanges" (.list contentChange)]

/-- The parameters of saving a document. -/
def saving : Schema :=
  .record "DidSaveTextDocumentParams" [ofDocument, optional "text" .text]

/-- The parameters of closing a document. -/
def closing : Schema := .record "DidCloseTextDocumentParams" [ofDocument]

/-! ## values -/

/-- Reads what has a shape. -/
def reading {α : Type} (shape : Schema) (value : Json → α) : Reader α := fun v =>
  (shape.check false v).map fun _ => value v

/-- The URL that a text spells. -/
def urlOf? : Json → Option Url
  | .string s => (Url.parse s).toOption
  | _ => none

/-- The URL in the `uri` field of a record. -/
def uriOf? (shape : Schema) (v : Json) : Option Url := (shape.get? "uri" v).bind urlOf?

/-- The URLs of folders. -/
def foldersOf (v : Json) : List Url := (Schema.items v).filterMap (uriOf? folder)

/-- Reads parameters that name a document. -/
def readDocument (shape inner : Schema) (call : Url → Call) : Reader Call := fun v =>
  match shape.check false v with
  | .error cause => .error cause
  | .ok () =>
    match (shape.get? "textDocument" v).bind (uriOf? inner) with
    | some u => .ok (call u)
    | none => .error (.missing "uri")

/-! ## calls -/

/-- Reads the parameters of a session's beginning. -/
def began : Reader Call :=
  reading beginning fun v =>
    .began (beginning.get? "initializationOptions" v)
      ((beginning.get? "workspaceFolders" v).map foldersOf)
      ((beginning.get? "rootUri" v).bind urlOf?)

/-- Reads the parameters of a call that has none to speak of. -/
def initialized : Reader Call := reading (.record "InitializedParams" []) fun _ => .initialized

/-- Reads the parameters of a change of the workspace folders. -/
def foldersChanged : Reader Call :=
  reading folderChange fun v =>
    let event := (folderChange.get? "event" v).getD .null
    let urls (name : String) := ((folderEvent.get? name event).map foldersOf).getD []
    .foldersChanged (urls "added") (urls "removed")

/-- Reads the parameters of a change of the settings. -/
def configurationChanged : Reader Call :=
  reading settingsChange fun v =>
    .configurationChanged ((settingsChange.get? "settings" v).getD .null)

/-- Reads the parameters of opening a document. -/
def opened : Reader Call := readDocument opening wholeDocument .opened

/-- Reads the parameters of changing a document. -/
def changed : Reader Call := readDocument changing versionedDocument .changed

/-- Reads the parameters of saving a document. -/
def saved : Reader Call := readDocument saving document .saved

/-- Reads the parameters of closing a document. -/
def closed : Reader Call := readDocument closing document .closed

end ChapelCheck.Params
