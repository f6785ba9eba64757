import ChapelCheck.Session.Vocabulary

/-!
# ChapelCheck.Session.Requests

The requests that editors know and that the server does not answer.  Their
parameters are checked first, so that an editor that sends the wrong ones is
told so.
-/

namespace ChapelCheck.Params

open Json (Schema Field)

/-! ## parameters of several requests -/

/-- A place, with the tokens of work and of parts. -/
def placeAndTokens (name : String) : Schema := .merged name [] [place, workToken, partToken]

/-- A place, with the token of work. -/
def placeAndWork (name : String) : Schema := .merged name [] [place, workToken]

/-- A document, with the tokens of work and of parts. -/
def documentAndTokens (name : String) : Schema :=
  .merged name [ofDocument] [workToken, partToken]

/-- Going to where something is defined. -/
def goto : Schema := placeAndTokens "GotoDefinitionParams"

/-! ## hierarchies -/

/-- A function in a hierarchy of calls. -/
def callItem : Schema :=
  .record "CallHierarchyItem"
    [required "name" .text, required "kind" signed, optional "tags" kinds,
      optional "detail" .text, required "uri" url, required "range" range,
      required "selectionRange" range, optional "data" .anything]

/-- A type in a hierarchy of types. -/
def typeItem : Schema :=
  .record "TypeHierarchyItem"
    [required "name" .text, required "kind" signed, optional "tags" signed,
      optional "detail" .text, required "uri" url, required "range" range,
      required "selectionRange" range, optional "data" .anything]

/-- A step in a hierarchy from an item. -/
def step (name : String) (item : Schema) : Schema :=
  .merged name [required "item" item] [workToken, partToken]

/-! ## hints and completions -/

/-- A text, with or without markup, beside a hint. -/
def tooltip (name : String) : Schema := .choice name [.text, markup]

/-- A hint between characters. -/
def hint : Schema :=
  .record "InlayHint"
    [required "position" position,
      required "label"
        (.choice "InlayHintLabel"
          [.text,
            .list (.record "InlayHintLabelPart"
              [required "value" .text, optional "tooltip" (tooltip "InlayHintLabelPartTooltip"),
                optional "location" location, optional "command" command])]),
      optional "kind" signed, optional "textEdits" (.list textEdit),
      optional "tooltip" (tooltip "InlayHintTooltip"),
      flag "paddingLeft", flag "paddingRight", optional "data" .anything]

/-- One completion. -/
def completionItem : Schema :=
  .record "CompletionItem"
    [required "label" .text,
      optional "labelDetails"
        (.record "CompletionItemLabelDetails"
          [optional "detail" .text, optional "description" .text]),
      optional "kind" signed, optional "detail" .text,
      optional "documentation" documentation,
      flag "deprecated", flag "preselect",
      optional "sortText" .text, optional "filterText" .text, optional "insertText" .text,
      optional "insertTextFormat" signed, optional "insertTextMode" signed,
      optional "textEdit"
        (.choice "CompletionTextEdit"
          [textEdit,
            .record "InsertReplaceEdit"
              [required "newText" .text, required "insert" range, required "replace" range]]),
      optional "additionalTextEdits" (.list textEdit),
      optional "command" command, optional "commitCharacters" texts,
      optional "data" .anything, optional "tags" kinds]

/-- Completion. -/
def completion : Schema :=
  .merged "CompletionParams"
    [optional "context"
      (.record "CompletionContext"
        [required "triggerKind" signed, optional "triggerCharacter" .text])]
    [place, workToken, partToken]

/-! ## signatures -/

/-- A signature with its parameters. -/
def signature : Schema :=
  .record "SignatureInformation"
    [required "label" .text, optional "documentation" documentation,
      optional "parameters"
        (.list (.record "ParameterInformation"
          [required "label" (.choice "ParameterLabel" [.text, .couple unsigned]),
            optional "documentation" documentation])),
      optional "activeParameter" unsigned]

/-- Help on signatures. -/
def signatureHelp : Schema :=
  .merged "SignatureHelpParams"
    [optional "context"
      (.record "SignatureHelpContext"
        [required "triggerKind" signed, optional "triggerCharacter" .text,
          required "isRetrigger" .boolean,
          optional "activeSignatureHelp"
            (.record "SignatureHelp"
              [required "signatures" (.list signature), optional "activeSignature" unsigned,
                optional "activeParameter" unsigned])])]
    [place, workToken]

/-! ## edits -/

/-- An edit of a document, with or without an annotation. -/
def documentEdit : Schema :=
  .record "TextDocumentEdit"
    [required "textDocument" maybeVersionedDocument,
      required "edits"
        (.list (.choice "OneOf"
          [textEdit,
            .merged "AnnotatedTextEdit" [required "annotationId" .text] [textEdit]]))]

/-- A file that comes, goes or moves. -/
def fileOperation : Schema :=
  .choice "ResourceOp"
    [.record "CreateFile"
      [required "kind" (.word ["create"]), required "uri" url,
        optional "options"
          (.record "CreateFileOptions" [flag "overwrite", flag "ignoreIfExists"]),
        optional "annotationId" .text],
    .record "RenameFile"
      [required "kind" (.word ["rename"]), required "oldUri" url, required "newUri" url,
        optional "options"
          (.record "RenameFileOptions" [flag "overwrite", flag "ignoreIfExists"]),
        optional "annotationId" .text],
    .record "DeleteFile"
      [required "kind" (.word ["delete"]), required "uri" url,
        optional "options"
          (.record "DeleteFileOptions"
            [flag "recursive", flag "ignoreIfNotExists", optional "annotationId" .text])]]

/-- An edit of a whole workspace. -/
def workspaceEdit : Schema :=
  .record "WorkspaceEdit"
    [lenient "changes" (.table "map" url (.list textEdit)),
      optional "documentChanges"
        (.choice "DocumentChanges"
          [.list documentEdit,
            .list (.choice "DocumentChangeOperation" [fileOperation, documentEdit])]),
      optional "changeAnnotations"
        (.table "a map" .text
          (.record "ChangeAnnotation"
            [required "label" .text, flag "needsConfirmation", optional "description" .text]))]

/-- An action on code. -/
def codeAction : Schema :=
  .record "CodeAction"
    [required "title" .text, optional "kind" .text, optional "diagnostics" (.list diagnostic),
      optional "edit" workspaceEdit, optional "command" command, flag "isPreferred",
      optional "disabled" (.record "CodeActionDisabled" [required "reason" .text]),
      optional "data" .anything]

/-- Actions on a range of code. -/
def codeActions : Schema :=
  .merged "CodeActionParams"
    [ofDocument, required "range" range,
      required "context"
        (.record "CodeActionContext"
          [required "diagnostics" (.list diagnostic), optional "only" texts,
            optional "triggerKind" signed])]
    [workToken, partToken]

/-- How code is to be formatted; an editor may add properties of its own. -/
def formatting : Schema :=
  .merged "FormattingOptions"
    [required "tabSize" unsigned, required "insertSpaces" .boolean,
      flag "trimTrailingWhitespace", flag "insertFinalNewline", flag "trimFinalNewlines"]
    [.table "a map" .text (.choice "FormattingProperty" [.boolean, signed, .text])]

/-! ## the workspace -/

/-- A symbol of the workspace. -/
def workspaceSymbol : Schema :=
  .record "WorkspaceSymbol"
    [required "name" .text, required "kind" signed, optional "tags" kinds,
      optional "containerName" .text,
      required "location"
        (.choice "OneOf" [location, .record "WorkspaceLocation" [required "uri" url]]),
      optional "data" .anything]

/-- Files that are about to come or go. -/
def fileList (name item : String) (fields : List String) : Schema :=
  .record name [required "files" (.list (.record item (fields.map fun f => required f .text)))]

/-! ## requests -/

/-- The requests, each with the shape of its parameters. -/
def unsupported : List (String × Schema) := [
  ("textDocument/willSaveWaitUntil",
    .record "WillSaveTextDocumentParams" [ofDocument, required "reason" signed]),
  ("textDocument/declaration", goto),
  ("textDocument/definition", goto),
  ("textDocument/typeDefinition", goto),
  ("textDocument/implementation", goto),
  ("textDocument/references",
    .merged "ReferenceParams"
      [required "context"
        (.record "ReferenceContext" [required "includeDeclaration" .boolean])]
      [place, workToken, partToken]),
  ("textDocument/prepareCallHierarchy", placeAndWork "CallHierarchyPrepareParams"),
  ("callHierarchy/incomingCalls", step "CallHierarchyIncomingCallsParams" callItem),
  ("callHierarchy/outgoingCalls", step "CallHierarchyOutgoingCallsParams" callItem),
  ("textDocument/prepareTypeHierarchy", placeAndWork "TypeHierarchyPrepareParams"),
  ("typeHierarchy/supertypes", step "TypeHierarchySupertypesParams" typeItem),
  ("typeHierarchy/subtypes", step "TypeHierarchySubtypesParams" typeItem),
  ("textDocument/documentHighlight", placeAndTokens "DocumentHighlightParams"),
  ("textDocument/documentLink", documentAndTokens "DocumentLinkParams"),
  ("documentLink/resolve",
    .record "DocumentLink"
      [required "range" range, optional "target" url, optional "tooltip" .text,
        optional "data" .anything]),
  ("textDocument/hover", placeAndWork "HoverParams"),
  ("textDocument/codeLens", documentAndTokens "CodeLensParams"),
  ("codeLens/resolve",
    .record "CodeLens"
      [required "range" range, optional "command" command, optional "data" .anything]),
  ("textDocument/foldingRange", documentAndTokens "FoldingRangeParams"),
  ("textDocument/selectionRange",
    .merged "SelectionRangeParams" [ofDocument, required "positions" (.list position)]
      [workToken, partToken]),
  ("textDocument/documentSymbol", documentAndTokens "DocumentSymbolParams"),
  ("textDocument/semanticTokens/full", documentAndTokens "SemanticTokensParams"),
  ("textDocument/semanticTokens/full/delta",
    .merged "SemanticTokensDeltaParams" [ofDocument, required "previousResultId" .text]
      [workToken, partToken]),
  ("textDocument/semanticTokens/range",
    .merged "SemanticTokensRangeParams" [ofDocument, required "range" range]
      [workToken, partToken]),
  ("textDocument/inlineValue",
    .merged "InlineValueParams"
      [ofDocument, required "range" range,
        required "context"
          (.record "InlineValueContext"
            [required "frameId" signed, required "stoppedLocation" range])]
      [workToken]),
  ("textDocument/inlayHint",
    .merged "InlayHintParams" [ofDocument, required "range" range] [workToken]),
  ("inlayHint/resolve", hint),
  ("textDocument/moniker", placeAndTokens "MonikerParams"),
  ("textDocument/completion", completion),
  ("completionItem/resolve", completionItem),
  ("textDocument/diagnostic",
    .merged "DocumentDiagnosticParams"
      [ofDocument, optional "identifier" .text, optional "previousResultId" .text]
      [workToken, partToken]),
  ("workspace/diagnostic",
    .merged "WorkspaceDiagnosticParams"
      [optional "identifier" .text,
        required "previousResultIds"
          (.list (.record "PreviousResultId" [required "uri" url, required "value" .text]))]
      [workToken, partToken]),
  ("textDocument/signatureHelp", signatureHelp),
  ("textDocument/codeAction", codeActions),
  ("codeAction/resolve", codeAction),
  ("textDocument/documentColor", documentAndTokens "DocumentColorParams"),
  ("textDocument/colorPresentation",
    .merged "ColorPresentationParams"
      [ofDocument,
        required "color"
          (.record "Color"
            (["red", "green", "blue", "alpha"].map fun c => required c (.number "f32"))),
        required "range" range]
      [workToken, partToken]),
  ("textDocument/formatting",
    .merged "DocumentFormattingParams" [ofDocument, required "options" formatting] [workToken]),
  ("textDocument/rangeFormatting",
    .merged "DocumentRangeFormattingParams"
      [ofDocument, required "range" range, required "options" formatting] [workToken]),
  ("textDocument/onTypeFormatting",
    .merged "DocumentOnTypeFormattingParams"
      [required "ch" .text, required "options" formatting] [place]),
  ("textDocument/rename",
    .merged "RenameParams" [required "newName" .text] [place, workToken]),
  ("textDocument/prepareRename", place),
  ("textDocument/linkedEditingRange", placeAndWork "LinkedEditingRangeParams"),
  ("workspace/symbol",
    .merged "WorkspaceSymbolParams" [required "query" .text] [partToken, workToken]),
  ("workspaceSymbol/resolve", workspaceSymbol),
  ("workspace/willCreateFiles", fileList "CreateFilesParams" "FileCreate" ["uri"]),
  ("workspace/willRenameFiles",
    fileList "RenameFilesParams" "FileRename" ["oldUri", "newUri"]),
  ("workspace/willDeleteFiles", fileList "DeleteFilesParams" "FileDelete" ["uri"]),
  ("workspace/executeCommand",
    .merged "ExecuteCommandParams"
      [required "command" .text, ("arguments", .defaulted, .list .anything)] [workToken])]

end ChapelCheck.Params
