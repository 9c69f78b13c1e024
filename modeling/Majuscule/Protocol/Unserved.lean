import Majuscule.Protocol.Params

/-!
# Requests that are known but not served

The protocol has many requests beyond those that this server answers. Their parameters are checked
all the same, so that a client learns first of a request that is wrong and only then that nobody
answers it. `Unserved.requests` lists the requests by name, each with the shape of its parameters,
and `Unserved.notices` names the notifications of this kind.
-/

namespace Majuscule.Unserved

open Decode Record

/-! ## Groups of fields -/

/-- The name of the document in question. -/
def document : Shape := has "textDocument" documentIdentifier

def range : Shape := has "range" Range.decode

def data : Shape := may "data" any

/-- The place in question. -/
def place : Shape := forget DocumentPosition.record

def workDone : Shape := forget workDoneToken

def partialResult : Shape := forget partialResultToken

/-- Parameters that name a document, with fields of their own. -/
def onDocument (name : String) (own : List Shape) : Decoder Unit :=
  spread name (document :: own) [workDone, partialResult]

/-- Parameters that name a place and may ask for partial results. -/
def atPlace (name : String) : Decoder Unit :=
  spread name [] [place, workDone, partialResult]

/-- Parameters that name a place, with fields of their own. -/
def onlyAtPlace (name : String) (own : List Shape) : Decoder Unit :=
  spread name own [place, workDone]

/-! ## Texts and edits -/

def markupContent : Decoder Unit :=
  shape "MarkupContent" [has "kind" MarkupKind.decode, has "value" text]

def changeAnnotation : Decoder Unit :=
  shape "ChangeAnnotation"
    [has "label" text, may "needsConfirmation" boolean, may "description" text]

/-- The edits of one document, of any of its versions. -/
def documentEdit : Decoder Unit :=
  shape "TextDocumentEdit" [
    has "textDocument" (shape "OptionalVersionedTextDocumentIdentifier" [has "uri" url,
      may "version" int32]),
    has "edits" (list TextEdit.decode)]

def createFile : Decoder Unit :=
  shape "CreateFile" [
    has "uri" url,
    may "options"
      (shape "CreateFileOptions" [may "overwrite" boolean, may "ignoreIfExists" boolean]),
    may "annotationId" text]

def renameFile : Decoder Unit :=
  shape "RenameFile" [
    has "oldUri" url,
    has "newUri" url,
    may "options"
      (shape "RenameFileOptions" [may "overwrite" boolean, may "ignoreIfExists" boolean]),
    may "annotationId" text]

def deleteFile : Decoder Unit :=
  shape "DeleteFile" [
    has "uri" url,
    may "options"
      (shape "DeleteFileOptions" [
        may "recursive" boolean, may "ignoreIfNotExists" boolean, may "annotationId" text])]

/-- The operations on files, by their kind. -/
def fileOperations : List (String × Decoder Unit) :=
  [("create", createFile), ("rename", renameFile), ("delete", deleteFile)]

/-- The kind of an operation on a file. -/
def fileOperationKind : Decoder (Decoder Unit) := fun v => do
  named (← text v) fileOperations

/-- An operation on a file: an object that says its kind, or an array that starts with it. -/
def fileOperation : Decoder Unit
  | .obj members => do
    let operation ← (required "kind" fileOperationKind).read members
    operation (.obj members)
  | .arr (kind :: rest) => do
    let operation ← fileOperationKind kind
    operation (.arr rest)
  | v => .error (.wrongType v "internally tagged enum ResourceOp")

/-- Edits of documents, or edits and operations on files in order. -/
def documentChanges : Decoder Unit :=
  union "DocumentChanges" (ignoring (list documentEdit))
    (ignoring (list (union "DocumentChangeOperation" fileOperation documentEdit)))

def workspaceEdit : Decoder Unit :=
  shape "WorkspaceEdit" [
    mayLack "changes" (dictionary "map" url (list TextEdit.decode)),
    may "documentChanges" documentChanges,
    may "changeAnnotations" (dictionary "a map" text changeAnnotation)]

/-! ## Items that come back for their details -/

def codeAction : Decoder Unit :=
  shape "CodeAction" [
    has "title" text,
    may "kind" text,
    may "diagnostics" (list Diagnostic.decode),
    may "edit" workspaceEdit,
    may "command" CommandLink.decode,
    may "isPreferred" boolean,
    may "disabled" (shape "CodeActionDisabled" [has "reason" text]),
    data]

def codeLens : Decoder Unit :=
  shape "CodeLens" [range, may "command" CommandLink.decode, data]

def documentLink : Decoder Unit :=
  shape "DocumentLink" [range, may "target" url, may "tooltip" text, data]

def inlayHintPart : Decoder Unit :=
  shape "InlayHintLabelPart" [
    has "value" text,
    may "tooltip" (textOr "InlayHintLabelPartTooltip" markupContent),
    may "location" Location.decode,
    may "command" CommandLink.decode]

def inlayHint : Decoder Unit :=
  shape "InlayHint" [
    has "position" Position.decode,
    has "label" (textOr "InlayHintLabel" (list inlayHintPart)),
    may "kind" int32,
    may "textEdits" (list TextEdit.decode),
    may "tooltip" (textOr "InlayHintTooltip" markupContent),
    may "paddingLeft" boolean,
    may "paddingRight" boolean,
    data]

def workspaceSymbol : Decoder Unit :=
  shape "WorkspaceSymbol" [
    has "name" text,
    has "kind" int32,
    may "tags" (list int32),
    may "containerName" text,
    has "location"
      (union "OneOf" (ignoring Location.decode) (shape "WorkspaceLocation" [has "uri" url])),
    data]

/-- An item of a hierarchy of calls or types; the two differ in how they write tags. -/
def hierarchyItem (name : String) (tags : Decoder α) : Decoder Unit :=
  shape name [
    has "name" text,
    has "kind" int32,
    may "tags" tags,
    may "detail" text,
    has "uri" url,
    range,
    has "selectionRange" Range.decode,
    data]

/-- Parameters that name an item of a hierarchy of calls. -/
def callItem (name : String) : Decoder Unit :=
  spread name [has "item" (hierarchyItem "CallHierarchyItem" (list int32))]
    [workDone, partialResult]

/-- Parameters that name an item of a hierarchy of types. -/
def typeItem (name : String) : Decoder Unit :=
  spread name [has "item" (hierarchyItem "TypeHierarchyItem" int32)] [workDone, partialResult]

/-! ## Signatures -/

/-- The label of a parameter: its text, or where it starts and ends in the
label of the signature. -/
def parameterLabel : Decoder Unit :=
  textOr "ParameterLabel" fun
    | .arr [first, last] => do
      let _ ← uint32 first
      let _ ← uint32 last
      return ()
    | v => .error (.wrongType v "an array of length 2")

def parameterInformation : Decoder Unit :=
  shape "ParameterInformation"
    [has "label" parameterLabel, may "documentation" Documentation.decode]

def signatureInformation : Decoder Unit :=
  shape "SignatureInformation" [
    has "label" text,
    may "documentation" Documentation.decode,
    may "parameters" (list parameterInformation),
    may "activeParameter" uint32]

def signatureHelp : Decoder Unit :=
  shape "SignatureHelp" [
    has "signatures" (list signatureInformation),
    may "activeSignature" uint32,
    may "activeParameter" uint32]

def signatureHelpContext : Decoder Unit :=
  shape "SignatureHelpContext" [
    has "triggerKind" int32,
    may "triggerCharacter" text,
    has "isRetrigger" boolean,
    may "activeSignatureHelp" signatureHelp]

/-! ## Formatting and colours -/

/-- The fields of the options that every formatter knows. -/
def formattingFields : List (String × Shape) := [
  ("tabSize", has "tabSize" uint32),
  ("insertSpaces", has "insertSpaces" boolean),
  ("trimTrailingWhitespace", may "trimTrailingWhitespace" boolean),
  ("insertFinalNewline", may "insertFinalNewline" boolean),
  ("trimFinalNewlines", may "trimFinalNewlines" boolean)]

/-- An option that only some formatters know. -/
def formattingProperty : Decoder Unit :=
  union "FormattingProperty" (ignoring boolean)
    (union "FormattingProperty" (ignoring int32) (ignoring text))

def formattingOptions : Decoder Unit :=
  decodeObject "FormattingOptions" fun members => do
    (fields (formattingFields.map Prod.snd)).read members
    eachMember text formattingProperty
      (members.filter fun m => (formattingFields.lookup m.1).isNone)

def options : Shape := has "options" formattingOptions

def color : Decoder Unit :=
  shape "Color" [has "red" single, has "green" single, has "blue" single, has "alpha" single]

/-! ## Files -/

/-- Parameters that list files. -/
def files (name : String) (file : Decoder Unit) : Decoder Unit :=
  shape name [has "files" (list file)]

/-! ## The requests -/

/-- Requests about one document. -/
def documentRequests : List (String × Decoder Unit) := [
  ("textDocument/willSaveWaitUntil",
    shape "WillSaveTextDocumentParams" [document, has "reason" int32]),
  ("textDocument/documentLink", onDocument "DocumentLinkParams" []),
  ("textDocument/codeLens", onDocument "CodeLensParams" []),
  ("textDocument/foldingRange", onDocument "FoldingRangeParams" []),
  ("textDocument/selectionRange",
    onDocument "SelectionRangeParams" [has "positions" (list Position.decode)]),
  ("textDocument/documentSymbol", onDocument "DocumentSymbolParams" []),
  ("textDocument/semanticTokens/full", onDocument "SemanticTokensParams" []),
  ("textDocument/semanticTokens/full/delta",
    onDocument "SemanticTokensDeltaParams" [has "previousResultId" text]),
  ("textDocument/semanticTokens/range", onDocument "SemanticTokensRangeParams" [range]),
  ("textDocument/inlineValue",
    spread "InlineValueParams" [
      document, range,
      has "context"
        (shape "InlineValueContext" [has "frameId" int32, has "stoppedLocation" Range.decode])]
      [workDone]),
  ("textDocument/inlayHint", spread "InlayHintParams" [document, range] [workDone]),
  ("textDocument/diagnostic",
    onDocument "DocumentDiagnosticParams" [may "identifier" text, may "previousResultId" text]),
  ("textDocument/documentColor", onDocument "DocumentColorParams" []),
  ("textDocument/colorPresentation",
    onDocument "ColorPresentationParams" [has "color" color, range]),
  ("textDocument/formatting", spread "DocumentFormattingParams" [document, options] [workDone]),
  ("textDocument/rangeFormatting",
    spread "DocumentRangeFormattingParams" [document, range, options] [workDone])]

/-- Requests about a place in a document. -/
def placeRequests : List (String × Decoder Unit) := [
  ("textDocument/declaration", atPlace "GotoDefinitionParams"),
  ("textDocument/definition", atPlace "GotoDefinitionParams"),
  ("textDocument/typeDefinition", atPlace "GotoDefinitionParams"),
  ("textDocument/implementation", atPlace "GotoDefinitionParams"),
  ("textDocument/references",
    spread "ReferenceParams" [
      has "context" (shape "ReferenceContext" [has "includeDeclaration" boolean])]
      [place, workDone, partialResult]),
  ("textDocument/prepareCallHierarchy", onlyAtPlace "CallHierarchyPrepareParams" []),
  ("textDocument/prepareTypeHierarchy", onlyAtPlace "TypeHierarchyPrepareParams" []),
  ("textDocument/documentHighlight", atPlace "DocumentHighlightParams"),
  ("textDocument/hover", onlyAtPlace "HoverParams" []),
  ("textDocument/moniker", atPlace "MonikerParams"),
  ("textDocument/signatureHelp",
    onlyAtPlace "SignatureHelpParams" [may "context" signatureHelpContext]),
  ("textDocument/onTypeFormatting",
    spread "DocumentOnTypeFormattingParams" [has "ch" text, options] [place]),
  ("textDocument/rename", onlyAtPlace "RenameParams" [has "newName" text]),
  ("textDocument/prepareRename",
    shape "TextDocumentPositionParams" [document, has "position" Position.decode]),
  ("textDocument/linkedEditingRange", onlyAtPlace "LinkedEditingRangeParams" [])]

/-- Requests that send an item back. -/
def itemRequests : List (String × Decoder Unit) := [
  ("callHierarchy/incomingCalls", callItem "CallHierarchyIncomingCallsParams"),
  ("callHierarchy/outgoingCalls", callItem "CallHierarchyOutgoingCallsParams"),
  ("typeHierarchy/supertypes", typeItem "TypeHierarchySupertypesParams"),
  ("typeHierarchy/subtypes", typeItem "TypeHierarchySubtypesParams"),
  ("documentLink/resolve", documentLink),
  ("codeLens/resolve", codeLens),
  ("inlayHint/resolve", inlayHint),
  ("codeAction/resolve", codeAction),
  ("workspaceSymbol/resolve", workspaceSymbol)]

/-- Requests about the workspace. -/
def workspaceRequests : List (String × Decoder Unit) := [
  ("workspace/diagnostic",
    spread "WorkspaceDiagnosticParams" [
      may "identifier" text,
      has "previousResultIds" (list (shape "PreviousResultId" [has "uri" url, has "value" text]))]
      [workDone, partialResult]),
  ("workspace/symbol", spread "WorkspaceSymbolParams" [has "query" text] [partialResult, workDone]),
  ("workspace/willCreateFiles", files "CreateFilesParams" (shape "FileCreate" [has "uri" text])),
  ("workspace/willRenameFiles",
    files "RenameFilesParams" (shape "FileRename" [has "oldUri" text, has "newUri" text])),
  ("workspace/willDeleteFiles", files "DeleteFilesParams" (shape "FileDelete" [has "uri" text]))]

/-- The requests that are known but not served, each with the shape of its parameters. -/
def requests : List (String × Decoder Unit) :=
  documentRequests ++ placeRequests ++ itemRequests ++ workspaceRequests

/-- The notifications that are known but not served. -/
def notices : List String := [
  "textDocument/willSave",
  "workspace/didChangeWorkspaceFolders",
  "workspace/didCreateFiles",
  "workspace/didRenameFiles",
  "workspace/didDeleteFiles"]

end Majuscule.Unserved
