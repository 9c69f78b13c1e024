import Majuscule.Decode.Shape

/-!
# Capabilities of the client

At start-up a client says what it can do. The server makes no use of it, but what is said has to
have the right shape: every part of the capabilities is checked to its leaves.
-/

namespace Majuscule.Capabilities

open Decode

/-! ## Recurring parts -/

/-- A part that only says whether the feature can be registered later on. -/
def registration : Decoder Unit :=
  shape "DynamicRegistrationClientCapabilities" [may "dynamicRegistration" boolean]

/-- The first field of most parts. -/
def dynamicRegistration : Shape := may "dynamicRegistration" boolean

/-- A part of the workspace that says whether the server may ask for a refresh. -/
def refresh (name : String) : Decoder Unit :=
  shape name [may "refreshSupport" boolean]

/-- The properties that can be filled in later. -/
def resolvable (name : String) : Decoder Unit :=
  shape name [has "properties" (list text)]

/-- The tags that are understood; a truth value is taken too. -/
def tags : Decoder Unit
  | .bool _ => .ok ()
  | v => shape "TagSupport" [has "valueSet" (list int32)] v

def tagSupport : Shape := mayLack "tagSupport" tags

def symbolKinds : Decoder Unit :=
  shape "SymbolKindCapability" [may "valueSet" (list int32)]

/-- The formats of documentation, in order of preference. -/
def markupKinds : Decoder (List Unit) :=
  list (oneOf ["plaintext", "markdown"])

/-! ## Workspace -/

def workspaceEdit : Decoder Unit :=
  shape "WorkspaceEditClientCapabilities" [
    may "documentChanges" boolean,
    may "resourceOperations" (list (oneOf ["create", "rename", "delete"])),
    may "failureHandling" (oneOf ["abort", "transactional", "textOnlyTransactional", "undo"]),
    may "normalizesLineEndings" boolean,
    may "changeAnnotationSupport"
      (shape "ChangeAnnotationWorkspaceEditClientCapabilities" [may "groupsOnLabel" boolean])]

def workspaceSymbol : Decoder Unit :=
  shape "WorkspaceSymbolClientCapabilities" [
    dynamicRegistration,
    may "symbolKind" symbolKinds,
    tagSupport,
    may "resolveSupport" (resolvable "WorkspaceSymbolResolveSupportCapability")]

def fileOperations : Decoder Unit :=
  shape "WorkspaceFileOperationsClientCapabilities" [
    dynamicRegistration,
    may "didCreate" boolean,
    may "willCreate" boolean,
    may "didRename" boolean,
    may "willRename" boolean,
    may "didDelete" boolean,
    may "willDelete" boolean]

def workspace : Decoder Unit :=
  shape "WorkspaceClientCapabilities" [
    may "applyEdit" boolean,
    may "workspaceEdit" workspaceEdit,
    may "didChangeConfiguration" registration,
    may "didChangeWatchedFiles"
      (shape "DidChangeWatchedFilesClientCapabilities" [dynamicRegistration,
        may "relativePatternSupport" boolean]),
    may "symbol" workspaceSymbol,
    may "executeCommand" registration,
    may "workspaceFolders" boolean,
    may "configuration" boolean,
    may "semanticTokens" (refresh "SemanticTokensWorkspaceClientCapabilities"),
    may "codeLens" (refresh "CodeLensWorkspaceClientCapabilities"),
    may "fileOperations" fileOperations,
    may "inlineValue" (refresh "InlineValueWorkspaceClientCapabilities"),
    may "inlayHint" (refresh "InlayHintWorkspaceClientCapabilities"),
    may "diagnostic" (refresh "DiagnosticWorkspaceClientCapabilities")]

/-! ## Documents -/

def completionItem : Decoder Unit :=
  shape "CompletionItemCapability" [
    may "snippetSupport" boolean,
    may "commitCharactersSupport" boolean,
    may "documentationFormat" markupKinds,
    may "deprecatedSupport" boolean,
    may "preselectSupport" boolean,
    tagSupport,
    may "insertReplaceSupport" boolean,
    may "resolveSupport" (resolvable "CompletionItemCapabilityResolveSupport"),
    may "insertTextModeSupport" (shape "InsertTextModeSupport" [has "valueSet" (list int32)]),
    may "labelDetailsSupport" boolean]

def completion : Decoder Unit :=
  shape "CompletionClientCapabilities" [
    dynamicRegistration,
    may "completionItem" completionItem,
    may "completionItemKind" (shape "CompletionItemKindCapability" [may "valueSet" (list int32)]),
    may "contextSupport" boolean,
    may "insertTextMode" int32,
    may "completionList" (shape "CompletionListCapability" [may "itemDefaults" (list text)])]

def signatureInformation : Decoder Unit :=
  shape "SignatureInformationSettings" [
    may "documentationFormat" markupKinds,
    may "parameterInformation"
      (shape "ParameterInformationSettings" [may "labelOffsetSupport" boolean]),
    may "activeParameterSupport" boolean]

def signatureHelp : Decoder Unit :=
  shape "SignatureHelpClientCapabilities" [
    dynamicRegistration,
    may "signatureInformation" signatureInformation,
    may "contextSupport" boolean]

def documentSymbol : Decoder Unit :=
  shape "DocumentSymbolClientCapabilities" [
    dynamicRegistration,
    may "symbolKind" symbolKinds,
    may "hierarchicalDocumentSymbolSupport" boolean,
    tagSupport]

/-- Features that lead from a name to a place. -/
def goto : Decoder Unit :=
  shape "GotoCapability" [dynamicRegistration, may "linkSupport" boolean]

def codeAction : Decoder Unit :=
  shape "CodeActionClientCapabilities" [
    dynamicRegistration,
    may "codeActionLiteralSupport"
      (shape "CodeActionLiteralSupport" [
        has "codeActionKind" (shape "CodeActionKindLiteralSupport" [has "valueSet" (list text)])]),
    may "isPreferredSupport" boolean,
    may "disabledSupport" boolean,
    may "dataSupport" boolean,
    may "resolveSupport" (resolvable "CodeActionCapabilityResolveSupport"),
    may "honorsChangeAnnotations" boolean]

def rename : Decoder Unit :=
  shape "RenameClientCapabilities" [
    dynamicRegistration,
    may "prepareSupport" boolean,
    may "prepareSupportDefaultBehavior" int32,
    may "honorsChangeAnnotations" boolean]

def publishDiagnostics : Decoder Unit :=
  shape "PublishDiagnosticsClientCapabilities" [
    may "relatedInformation" boolean,
    tagSupport,
    may "versionSupport" boolean,
    may "codeDescriptionSupport" boolean,
    may "dataSupport" boolean]

def foldingRange : Decoder Unit :=
  shape "FoldingRangeClientCapabilities" [
    dynamicRegistration,
    may "rangeLimit" uint32,
    may "lineFoldingOnly" boolean,
    may "foldingRangeKind"
      (shape "FoldingRangeKindCapability"
        [may "valueSet" (list (oneOf ["comment", "imports", "region"]))]),
    may "foldingRange" (shape "FoldingRangeCapability" [may "collapsedText" boolean])]

def semanticTokens : Decoder Unit :=
  shape "SemanticTokensClientCapabilities" [
    dynamicRegistration,
    has "requests"
      (shape "SemanticTokensClientCapabilitiesRequests" [
        may "range" boolean,
        may "full" (union "SemanticTokensFullOptions" (ignoring boolean)
          (spread "SemanticTokensFullOptions" [may "delta" boolean] []))]),
    has "tokenTypes" (list text),
    has "tokenModifiers" (list text),
    has "formats" (list text),
    may "overlappingTokenSupport" boolean,
    may "multilineTokenSupport" boolean,
    may "serverCancelSupport" boolean,
    may "augmentsSyntaxTokens" boolean]

def textDocument : Decoder Unit :=
  shape "TextDocumentClientCapabilities" [
    may "synchronization"
      (shape "TextDocumentSyncClientCapabilities" [
        dynamicRegistration, may "willSave" boolean, may "willSaveWaitUntil" boolean,
        may "didSave" boolean]),
    may "completion" completion,
    may "hover"
      (shape "HoverClientCapabilities" [dynamicRegistration, may "contentFormat" markupKinds]),
    may "signatureHelp" signatureHelp,
    may "references" registration,
    may "documentHighlight" registration,
    may "documentSymbol" documentSymbol,
    may "formatting" registration,
    may "rangeFormatting" registration,
    may "onTypeFormatting" registration,
    may "declaration" goto,
    may "definition" goto,
    may "typeDefinition" goto,
    may "implementation" goto,
    may "codeAction" codeAction,
    may "codeLens" registration,
    may "documentLink"
      (shape "DocumentLinkClientCapabilities" [dynamicRegistration, may "tooltipSupport" boolean]),
    may "colorProvider" registration,
    may "rename" rename,
    may "publishDiagnostics" publishDiagnostics,
    may "foldingRange" foldingRange,
    may "selectionRange" (shape "SelectionRangeClientCapabilities" [dynamicRegistration]),
    may "linkedEditingRange" registration,
    may "callHierarchy" registration,
    may "semanticTokens" semanticTokens,
    may "moniker" registration,
    may "typeHierarchy" registration,
    may "inlineValue" registration,
    may "inlayHint"
      (shape "InlayHintClientCapabilities" [
        dynamicRegistration,
        may "resolveSupport" (resolvable "InlayHintResolveClientCapabilities")]),
    may "diagnostic"
      (shape "DiagnosticClientCapabilities" [dynamicRegistration,
        may "relatedDocumentSupport" boolean])]

/-! ## Window and general -/

def window : Decoder Unit :=
  shape "WindowClientCapabilities" [
    may "workDoneProgress" boolean,
    may "showMessage"
      (shape "ShowMessageRequestClientCapabilities" [
        may "messageActionItem"
          (shape "MessageActionItemCapabilities" [may "additionalPropertiesSupport" boolean])]),
    may "showDocument" (shape "ShowDocumentClientCapabilities" [has "support" boolean])]

def general : Decoder Unit :=
  shape "GeneralClientCapabilities" [
    may "regularExpressions"
      (shape "RegularExpressionsClientCapabilities" [has "engine" text, may "version" text]),
    may "markdown"
      (shape "MarkdownClientCapabilities" [has "parser" text, may "version" text,
        may "allowedTags" (list text)]),
    may "staleRequestSupport"
      (shape "StaleRequestSupportClientCapabilities" [
        has "cancel" boolean, has "retryOnContentModified" (list text)]),
    may "positionEncodings" (list text)]

/-- Everything that a client says about itself. -/
def client : Decoder Unit :=
  shape "ClientCapabilities" [
    may "workspace" workspace,
    may "textDocument" textDocument,
    may "window" window,
    may "general" general,
    may "experimental" any]

end Majuscule.Capabilities
