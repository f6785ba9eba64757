import ChapelCheck.Session.Vocabulary

/-!
# ChapelCheck.Session.Capabilities

What an editor says it can do when a session begins.  The server makes no use
of it, but it is checked: an editor that describes itself in the wrong way is
refused.
-/

namespace ChapelCheck.Params

open Json (Schema Field)

/-! ## shared parts -/

/-- A capability that can be registered while the session goes on. -/
def registration : Field := flag "dynamicRegistration"

/-- A capability with nothing more to say. -/
def plainCapability : Schema := .record "DynamicRegistrationClientCapabilities" [registration]

/-- Going from one place to another. -/
def gotoCapability : Schema := .record "GotoCapability" [registration, flag "linkSupport"]

/-- The tags that an editor knows; some say only whether they know any. -/
def tagSupport : Field :=
  lenient "tagSupport" (.orBoolean (.record "TagSupport" [required "valueSet" kinds]))

/-- The kinds of symbols that an editor knows. -/
def symbolKinds : Field :=
  optional "symbolKind" (.record "SymbolKindCapability" [optional "valueSet" kinds])

/-- Properties that an editor asks for later. -/
def resolveSupport (name : String) : Field :=
  optional "resolveSupport" (.record name [required "properties" texts])

/-- Whether an editor takes part in a refresh. -/
def refreshing (name : String) : Schema := .record name [flag "refreshSupport"]

/-! ## the workspace -/

/-- Edits of a whole workspace. -/
def workspaceEditCapability : Schema :=
  .record "WorkspaceEditClientCapabilities"
    [flag "documentChanges",
      optional "resourceOperations" (.list (.word ["create", "rename", "delete"])),
      optional "failureHandling"
        (.word ["abort", "transactional", "textOnlyTransactional", "undo"]),
      flag "normalizesLineEndings",
      optional "changeAnnotationSupport"
        (.record "ChangeAnnotationWorkspaceEditClientCapabilities" [flag "groupsOnLabel"])]

/-- Symbols of a whole workspace. -/
def workspaceSymbolCapability : Schema :=
  .record "WorkspaceSymbolClientCapabilities"
    [registration, symbolKinds, tagSupport,
      resolveSupport "WorkspaceSymbolResolveSupportCapability"]

/-- Files that come, go and move. -/
def fileOperationCapability : Schema :=
  .record "WorkspaceFileOperationsClientCapabilities"
    [registration, flag "didCreate", flag "willCreate", flag "didRename", flag "willRename",
      flag "didDelete", flag "willDelete"]

/-- What an editor can do with a workspace. -/
def workspaceCapabilities : Schema :=
  .record "WorkspaceClientCapabilities"
    [flag "applyEdit",
      optional "workspaceEdit" workspaceEditCapability,
      optional "didChangeConfiguration" plainCapability,
      optional "didChangeWatchedFiles"
        (.record "DidChangeWatchedFilesClientCapabilities"
          [registration, flag "relativePatternSupport"]),
      optional "symbol" workspaceSymbolCapability,
      optional "executeCommand" plainCapability,
      flag "workspaceFolders",
      flag "configuration",
      optional "semanticTokens" (refreshing "SemanticTokensWorkspaceClientCapabilities"),
      optional "codeLens" (refreshing "CodeLensWorkspaceClientCapabilities"),
      optional "fileOperations" fileOperationCapability,
      optional "inlineValue" (refreshing "InlineValueWorkspaceClientCapabilities"),
      optional "inlayHint" (refreshing "InlayHintWorkspaceClientCapabilities"),
      optional "diagnostic" (refreshing "DiagnosticWorkspaceClientCapabilities")]

/-! ## documents -/

/-- Following a document. -/
def synchronizationCapability : Schema :=
  .record "TextDocumentSyncClientCapabilities"
    [registration, flag "willSave", flag "willSaveWaitUntil", flag "didSave"]

/-- One completion. -/
def completionItemCapability : Schema :=
  .record "CompletionItemCapability"
    [flag "snippetSupport", flag "commitCharactersSupport",
      optional "documentationFormat" (.list markupKind),
      flag "deprecatedSupport", flag "preselectSupport", tagSupport,
      flag "insertReplaceSupport",
      resolveSupport "CompletionItemCapabilityResolveSupport",
      optional "insertTextModeSupport"
        (.record "InsertTextModeSupport" [required "valueSet" kinds]),
      flag "labelDetailsSupport"]

/-- Completion. -/
def completionCapability : Schema :=
  .record "CompletionClientCapabilities"
    [registration,
      optional "completionItem" completionItemCapability,
      optional "completionItemKind"
        (.record "CompletionItemKindCapability" [optional "valueSet" kinds]),
      flag "contextSupport",
      optional "insertTextMode" signed,
      optional "completionList"
        (.record "CompletionListCapability" [optional "itemDefaults" texts])]

/-- Hovering. -/
def hoverCapability : Schema :=
  .record "HoverClientCapabilities"
    [registration, optional "contentFormat" (.list markupKind)]

/-- Help on signatures. -/
def signatureCapability : Schema :=
  .record "SignatureHelpClientCapabilities"
    [registration,
      optional "signatureInformation"
        (.record "SignatureInformationSettings"
          [optional "documentationFormat" (.list markupKind),
            optional "parameterInformation"
              (.record "ParameterInformationSettings" [flag "labelOffsetSupport"]),
            flag "activeParameterSupport"]),
      flag "contextSupport"]

/-- Symbols of a document. -/
def documentSymbolCapability : Schema :=
  .record "DocumentSymbolClientCapabilities"
    [registration, symbolKinds, flag "hierarchicalDocumentSymbolSupport", tagSupport]

/-- Actions on code. -/
def codeActionCapability : Schema :=
  .record "CodeActionClientCapabilities"
    [registration,
      optional "codeActionLiteralSupport"
        (.record "CodeActionLiteralSupport"
          [required "codeActionKind"
            (.record "CodeActionKindLiteralSupport" [required "valueSet" texts])]),
      flag "isPreferredSupport", flag "disabledSupport", flag "dataSupport",
      resolveSupport "CodeActionCapabilityResolveSupport",
      flag "honorsChangeAnnotations"]

/-- Renaming. -/
def renameCapability : Schema :=
  .record "RenameClientCapabilities"
    [registration, flag "prepareSupport", optional "prepareSupportDefaultBehavior" signed,
      flag "honorsChangeAnnotations"]

/-- Diagnostics that are pushed. -/
def publishCapability : Schema :=
  .record "PublishDiagnosticsClientCapabilities"
    [flag "relatedInformation", tagSupport, flag "versionSupport",
      flag "codeDescriptionSupport", flag "dataSupport"]

/-- Folding. -/
def foldingCapability : Schema :=
  .record "FoldingRangeClientCapabilities"
    [registration, optional "rangeLimit" unsigned, flag "lineFoldingOnly",
      optional "foldingRangeKind"
        (.record "FoldingRangeKindCapability"
          [optional "valueSet" (.list (.word ["comment", "imports", "region"]))]),
      optional "foldingRange" (.record "FoldingRangeCapability" [flag "collapsedText"])]

/-- Tokens with a meaning. -/
def semanticTokenCapability : Schema :=
  .record "SemanticTokensClientCapabilities"
    [registration,
      required "requests"
        (.record "SemanticTokensClientCapabilitiesRequests"
          [flag "range",
            optional "full"
              (.choice "SemanticTokensFullOptions"
                [.boolean, .record "SemanticTokensFullOptions" [flag "delta"]])]),
      required "tokenTypes" texts, required "tokenModifiers" texts,
      required "formats" (.list (.word ["relative"])),
      flag "overlappingTokenSupport", flag "multilineTokenSupport",
      flag "serverCancelSupport", flag "augmentsSyntaxTokens"]

/-- What an editor can do with a document. -/
def documentCapabilities : Schema :=
  .record "TextDocumentClientCapabilities"
    [optional "synchronization" synchronizationCapability,
      optional "completion" completionCapability,
      optional "hover" hoverCapability,
      optional "signatureHelp" signatureCapability,
      optional "references" plainCapability,
      optional "documentHighlight" plainCapability,
      optional "documentSymbol" documentSymbolCapability,
      optional "formatting" plainCapability,
      optional "rangeFormatting" plainCapability,
      optional "onTypeFormatting" plainCapability,
      optional "declaration" gotoCapability,
      optional "definition" gotoCapability,
      optional "typeDefinition" gotoCapability,
      optional "implementation" gotoCapability,
      optional "codeAction" codeActionCapability,
      optional "codeLens" plainCapability,
      optional "documentLink"
        (.record "DocumentLinkClientCapabilities" [registration, flag "tooltipSupport"]),
      optional "colorProvider" plainCapability,
      optional "rename" renameCapability,
      optional "publishDiagnostics" publishCapability,
      optional "foldingRange" foldingCapability,
      optional "selectionRange" (.record "SelectionRangeClientCapabilities" [registration]),
      optional "linkedEditingRange" plainCapability,
      optional "callHierarchy" plainCapability,
      optional "semanticTokens" semanticTokenCapability,
      optional "moniker" plainCapability,
      optional "typeHierarchy" plainCapability,
      optional "inlineValue" plainCapability,
      optional "inlayHint"
        (.record "InlayHintClientCapabilities"
          [registration, resolveSupport "InlayHintResolveClientCapabilities"]),
      optional "diagnostic"
        (.record "DiagnosticClientCapabilities" [registration, flag "relatedDocumentSupport"])]

/-! ## all of it -/

/-- What an editor can do with its windows. -/
def windowCapabilities : Schema :=
  .record "WindowClientCapabilities"
    [flag "workDoneProgress",
      optional "showMessage"
        (.record "ShowMessageRequestClientCapabilities"
          [optional "messageActionItem"
            (.record "MessageActionItemCapabilities" [flag "additionalPropertiesSupport"])]),
      optional "showDocument"
        (.record "ShowDocumentClientCapabilities" [required "support" .boolean])]

/-- What an editor can do in general. -/
def generalCapabilities : Schema :=
  .record "GeneralClientCapabilities"
    [optional "regularExpressions"
        (.record "RegularExpressionsClientCapabilities"
          [required "engine" .text, optional "version" .text]),
      optional "markdown"
        (.record "MarkdownClientCapabilities"
          [required "parser" .text, optional "version" .text, optional "allowedTags" texts]),
      optional "staleRequestSupport"
        (.record "StaleRequestSupportClientCapabilities"
          [required "cancel" .boolean, required "retryOnContentModified" texts]),
      optional "positionEncodings" texts]

/-- What an editor can do. -/
def capabilities : Schema :=
  .record "ClientCapabilities"
    [optional "workspace" workspaceCapabilities,
      optional "textDocument" documentCapabilities,
      optional "window" windowCapabilities,
      optional "general" generalCapabilities,
      optional "experimental" .anything]

end ChapelCheck.Params
