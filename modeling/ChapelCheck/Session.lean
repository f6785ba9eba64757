import ChapelCheck.Session.Params
import ChapelCheck.Session.Requests

/-!
# ChapelCheck.Session

A session with an editor: messages come in, and answers and messages go out.
A message with an identifier is a request and is answered; any other one is a
notification.

```
uninitialized --initialize--> initialized --shutdown--> shut down
                    any phase --exit--> exited
```
-/

namespace ChapelCheck

/-- How far a session is. -/
inductive Phase where
  | uninitialized
  | initialized
  | shutDown
  | exited
deriving DecidableEq, Repr

/-- Why a request is refused. -/
inductive RequestError where
  | notInitialized
  | invalidRequest
  /-- There is no such method; a method that nobody knows is named. -/
  | methodNotFound (method : Option String)
  | missingParams
  | unexpectedParams (params : Json)
  | wrongParams (cause : Json.ShapeError)

/-- The answer to a message. -/
inductive Response where
  /-- Nothing is answered. -/
  | silence
  /-- The session is over. -/
  | exited
  | result (id : Json) (value : Json)
  | error (id : Json) (cause : RequestError)

/-- A session: how far it is, and its server. -/
structure Session where
  phase : Phase
  server : Server

/-- What comes of a message. -/
structure Reply where
  response : Response
  sent : List Outgoing
  log : List Event
  invocations : List Invocation

/-- A message of an editor. -/
structure Message where
  method : String
  id : Option Json
  params : Option Json

namespace RequestError

/-- The number of a refusal. -/
def code : RequestError → Int
  | .notInitialized => -32002
  | .invalidRequest => -32600
  | .methodNotFound _ => -32601
  | .missingParams => -32602
  | .unexpectedParams _ => -32602
  | .wrongParams _ => -32602

/-- The wording of a refusal. -/
def message : RequestError → String
  | .notInitialized => "Server not initialized"
  | .invalidRequest => "Invalid request"
  | .methodNotFound _ => "Method not found"
  | .missingParams => "Missing params field"
  | .unexpectedParams params => "Unexpected params: " ++ params.render
  | .wrongParams cause => cause.message

/-- A refusal in the form that editors read. -/
def toJson (e : RequestError) : Json :=
  let data := match e with
    | .methodNotFound (some method) => [("data", Json.string method)]
    | _ => []
  .object ([("code", .number (.whole e.code))] ++ data ++ [("message", .string e.message)])

end RequestError

/-- The version of the message format. -/
def formatVersion : String × Json := ("jsonrpc", .string "2.0")

/-- A message to the editor in the form that editors read. -/
def Outgoing.toJson : Outgoing → Json
  | .message weight text =>
    .object [formatVersion, ("method", .string "window/logMessage"),
      ("params", .object [("message", .string text), ("type", .ofNat weight.number)])]
  | .publish document diagnostics =>
    .object [formatVersion, ("method", .string "textDocument/publishDiagnostics"),
      ("params", .object [("diagnostics", .array (diagnostics.map Editor.Diagnostic.toJson)),
        ("uri", .string document.text)])]

/-- An answer in the form that editors read, if there is one. -/
def Response.toJson? : Response → Option Json
  | .silence => none
  | .exited => none
  | .result id value => some (.object [("id", id), formatVersion, ("result", value)])
  | .error id cause => some (.object [("error", cause.toJson), ("id", id), formatVersion])

/-- Reads a message. -/
def Message.ofJson? (v : Json) : Option Message :=
  match v with
  | .object members =>
    match Json.lookup "method" members with
    | some (.string method) =>
      some ⟨method, Json.lookup "id" members, Json.lookup "params" members⟩
    | _ => none
  | _ => none

namespace Session

/-- A session that has not begun. -/
def ofSettings (s : Settings) : Session := ⟨.uninitialized, .ofSettings s⟩

/-! ## methods -/

/-- What the server can do for an editor, as it says at the beginning. -/
def welcome : Json :=
  .object [
    ("capabilities", .object [
      ("textDocumentSync", .object [
        ("change", .ofNat 2),
        ("openClose", .bool true),
        ("save", .object [("includeText", .bool false)])]),
      ("workspace", .object [
        ("workspaceFolders", .object [
          ("changeNotifications", .bool true),
          ("supported", .bool true)])])]),
    ("serverInfo", .object [("name", .string "chapel-lsp"), ("version", .string "0.1.0")])]

/-- The notifications that the server acts on, and how their parameters are
read. -/
def notifications : List (String × Json.Reader Call) :=
  [("initialized", Params.initialized),
    ("workspace/didChangeWorkspaceFolders", Params.foldersChanged),
    ("workspace/didChangeConfiguration", Params.configurationChanged),
    ("textDocument/didOpen", Params.opened),
    ("textDocument/didChange", Params.changed),
    ("textDocument/didSave", Params.saved),
    ("textDocument/didClose", Params.closed)]

/-- The notifications that are known, but that the server does nothing for. -/
def ignoredNotifications : List String :=
  ["textDocument/willSave", "workspace/didCreateFiles",
    "workspace/didRenameFiles", "workspace/didDeleteFiles", "workspace/didChangeWatchedFiles"]

/-! ## answers -/

/-- A reply with an answer alone. -/
def answer (response : Response) : Reply := ⟨response, [], [], []⟩

/-- Refuses a message; a notification is dropped. -/
def refuse (id : Option Json) (cause : RequestError) : Reply :=
  match id with
  | some id => answer (.error id cause)
  | none => answer .silence

/-- Refuses a message because the session is not in the right phase. -/
def refusePhase (phase : Phase) (id : Option Json) : Reply :=
  match phase with
  | .uninitialized => refuse id .notInitialized
  | _ => refuse id .invalidRequest

/-- Has the server handle a call, and answers. -/
def perform (h : Host) (s : Session) (phase : Phase) (call : Call) (response : Response) :
    Session × Reply :=
  let r := s.server.handle h call
  (⟨phase, r.value.1⟩, ⟨response, r.value.2, r.log, r.invocations⟩)

/-- Reads the parameters of a message. -/
def readParams {α : Type} (read : Json.Reader α) : Option Json → Except RequestError α
  | none => .error .missingParams
  | some params => (read params).mapError .wrongParams

/-! ## messages -/

/-- The request that begins a session. -/
def commence (h : Host) (s : Session) (m : Message) : Session × Reply :=
  match s.phase, m.id with
  | .uninitialized, none => (s, answer .silence)
  | .uninitialized, some id =>
    match readParams Params.began m.params with
    | .error cause => (s, refuse m.id cause)
    | .ok call => s.perform h .initialized call (.result id welcome)
  | _, id => (s, refuse id .invalidRequest)

/-- The request that ends the work of a session. -/
def shutdown (h : Host) (s : Session) (m : Message) : Session × Reply :=
  match s.phase with
  | .initialized =>
    let closed : Session := { s with phase := .shutDown }
    match m.id, m.params with
    | none, _ => (closed, answer .silence)
    | some id, some params => (closed, refuse (some id) (.unexpectedParams params))
    | some id, none => s.perform h .shutDown .shutdown (.result id .null)
  | phase => (s, refusePhase phase m.id)

/-- A notification that the server acts on. -/
def notify (h : Host) (s : Session) (read : Json.Reader Call) (m : Message) : Session × Reply :=
  match s.phase with
  | .initialized =>
    match m.id, readParams read m.params with
    | none, .ok call => s.perform h .initialized call .silence
    | id, _ => (s, refuse id .invalidRequest)
  | phase => (s, refusePhase phase m.id)

/-- A notification that the server does nothing for. -/
def ignore (s : Session) (m : Message) : Reply :=
  match s.phase with
  | .initialized => refuse m.id .invalidRequest
  | phase => refusePhase phase m.id

/-- A request that the server does not answer. -/
def decline (s : Session) (shape : Json.Schema) (m : Message) : Reply :=
  match s.phase with
  | .initialized =>
    match readParams (shape.check false) m.params with
    | .error cause => refuse m.id cause
    | .ok () => refuse m.id (.methodNotFound none)
  | phase => refusePhase phase m.id

/-- What comes of one message. -/
def receive (h : Host) (s : Session) (m : Message) : Session × Reply :=
  if s.phase = .exited then (s, answer .exited)
  else if m.method = "initialize" then s.commence h m
  else if m.method = "shutdown" then s.shutdown h m
  else if m.method = "exit" then ({ s with phase := .exited }, answer .silence)
  else
    match notifications.lookup m.method with
    | some read => s.notify h read m
    | none =>
      match Params.unsupported.lookup m.method with
      | some shape => (s, s.decline shape m)
      | none =>
        if m.method = "$/cancelRequest" then (s, refuse m.id .invalidRequest)
        else if m.method ∈ ignoredNotifications then (s, s.ignore m)
        else (s, refuse m.id (.methodNotFound (some m.method)))

end Session

end ChapelCheck
