import ChapelCheck.Json.Schema
import ChapelCheck.Url.Parse

/-!
# ChapelCheck.Session.Vocabulary

The shapes that many messages of an editor share: numbers, places in documents,
documents, and the tokens by which work is tracked.
-/

namespace ChapelCheck.Params

open Json (Schema Field)
open Json.Schema

/-! ## scalars -/

/-- A whole number of 32 bits. -/
def unsigned : Schema := .whole 0 4294967295 "u32"

/-- A whole number of 32 bits with a sign. -/
def signed : Schema := .whole (-2147483648) 2147483647 "i32"

/-- Why a text is no URL, if it is none. -/
def urlRefusal (s : String) : Option String :=
  match Url.parse s with
  | .ok _ => none
  | .error cause => some (cause.message ++ ": " ++ Text.quoted s)

/-- A URL. -/
def url : Schema := .notated "a string representing an URL" urlRefusal

/-- A list of texts. -/
def texts : Schema := .list .text

/-- A list of numbered kinds. -/
def kinds : Schema := .list signed

/-! ## fields -/

/-- A field that must be there. -/
def required (name : String) (shape : Schema) : Field := (name, .required, shape)

/-- A field that may be missing or null. -/
def optional (name : String) (shape : Schema) : Field := (name, .optional, shape)

/-- A field that may be missing or null, also at the end of an array. -/
def lenient (name : String) (shape : Schema) : Field := (name, .lenient, shape)

/-- An optional truth value. -/
def flag (name : String) : Field := optional name .boolean

/-! ## places -/

/-- A position in a document. -/
def position : Schema :=
  .record "Position" [required "line" unsigned, required "character" unsigned]

/-- A range in a document. -/
def range : Schema := .record "Range" [required "start" position, required "end" position]

/-- A range in some document. -/
def location : Schema := .record "Location" [required "uri" url, required "range" range]

/-! ## documents -/

/-- A document by its URL. -/
def document : Schema := .record "TextDocumentIdentifier" [required "uri" url]

/-- A document with its version. -/
def versionedDocument : Schema :=
  .record "VersionedTextDocumentIdentifier" [required "uri" url, required "version" signed]

/-- A document with its version, if that is known. -/
def maybeVersionedDocument : Schema :=
  .record "OptionalVersionedTextDocumentIdentifier"
    [required "uri" url, optional "version" signed]

/-- A document with its text. -/
def wholeDocument : Schema :=
  .record "TextDocumentItem"
    [required "uri" url, required "languageId" .text, required "version" signed,
      required "text" .text]

/-- A field that names a document. -/
def ofDocument : Field := required "textDocument" document

/-- A position in a document that is named with it. -/
def place : Schema :=
  .record "TextDocumentPositionParams" [ofDocument, required "position" position]

/-- A workspace folder. -/
def folder : Schema := .record "WorkspaceFolder" [required "uri" url, required "name" .text]

/-! ## tracking -/

/-- A number or a text. -/
def numberOrText : Schema := .choice "NumberOrString" [signed, .text]

/-- The token of work that reports how far it is. -/
def workToken : Schema := .record "WorkDoneProgressParams" [optional "workDoneToken" numberOrText]

/-- The token of results that come in parts. -/
def partToken : Schema :=
  .record "PartialResultParams" [optional "partialResultToken" numberOrText]

/-! ## texts and edits -/

/-- How a text is marked up. -/
def markupKind : Schema := .word ["plaintext", "markdown"]

/-- A text with markup. -/
def markup : Schema :=
  .record "MarkupContent" [required "kind" markupKind, required "value" .text]

/-- A text, with or without markup. -/
def documentation : Schema := .choice "Documentation" [.text, markup]

/-- A change of a range. -/
def textEdit : Schema :=
  .record "TextEdit" [required "range" range, required "newText" .text]

/-- A command that an editor can run. -/
def command : Schema :=
  .record "Command"
    [required "title" .text, required "command" .text, optional "arguments" (.list .anything)]

/-- A diagnostic that an editor shows. -/
def diagnostic : Schema :=
  .record "Diagnostic"
    [required "range" range, optional "severity" signed, optional "code" numberOrText,
      optional "codeDescription" (.record "CodeDescription" [required "href" url]),
      optional "source" .text, required "message" .text,
      optional "relatedInformation"
        (.list (.record "DiagnosticRelatedInformation"
          [required "location" location, required "message" .text])),
      optional "tags" kinds, optional "data" .anything]

end ChapelCheck.Params
