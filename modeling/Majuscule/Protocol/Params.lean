import Majuscule.Protocol.Capabilities
import Majuscule.Protocol.CompletionItem
import Majuscule.Protocol.Diagnostic

/-!
# Parameters of requests and notifications

What clients send along with each method. A decoder checks every field that the protocol gives its
structure, whether the server uses it or not; the structures here keep what the server uses.
-/

namespace Majuscule

open Decode Record

/-! ## Shared groups of fields -/

/-- The name of a document. -/
def documentIdentifier : Decoder Url :=
  (required "uri" url).decode "TextDocumentIdentifier"

/-- A place in a named document. -/
structure DocumentPosition where
  uri : Url
  position : Position
  deriving DecidableEq, Repr

def DocumentPosition.record : Record DocumentPosition :=
  DocumentPosition.mk <$> required "textDocument" documentIdentifier <*>
    required "position" Position.decode

/-- The token under which progress of a request may be reported. -/
def workDoneToken : Record (Option NumberOrString) :=
  optional "workDoneToken" NumberOrString.decode

/-- The token under which parts of a result may be sent. -/
def partialResultToken : Record (Option NumberOrString) :=
  optional "partialResultToken" NumberOrString.decode

/-! ## Start-up -/

def workspaceFolder : Decoder Unit :=
  shape "WorkspaceFolder" [has "uri" url, has "name" text]

def clientInfo : Decoder Unit :=
  shape "ClientInfo" [has "name" text, may "version" text]

def traceValue : Decoder Unit :=
  oneOf ["off", "messages", "verbose"]

/-- What a client sends to start the server. -/
structure InitializeParams where
  initializationOptions : Option Json
  deriving Repr

def InitializeParams.decode : Decoder InitializeParams :=
  ((fun _ _ _ options _ _ _ _ _ => InitializeParams.mk options)
    <$> optional "processId" uint32
    <*> optional "rootPath" text
    <*> defaulted "rootUri" none (nullable url)
    <*> optional "initializationOptions" any
    <*> required "capabilities" Capabilities.client
    <*> defaulted "trace" none (nullable traceValue)
    <*> optional "workspaceFolders" (list workspaceFolder)
    <*> optional "clientInfo" clientInfo
    <*> optional "locale" text).decode "InitializeParams"

/-- The confirmation that the client is ready carries nothing. -/
def initializedParams : Decoder Unit :=
  (Record.const ()).decode "InitializedParams"

/-! ## Documents -/

/-- A document that was opened, with its text. -/
structure OpenParams where
  uri : Url
  text : String
  deriving DecidableEq, Repr

def OpenParams.decode : Decoder OpenParams :=
  (required "textDocument"
    (((fun uri _ _ text => OpenParams.mk uri text)
      <$> required "uri" url
      <*> required "languageId" Decode.text
      <*> required "version" int32
      <*> required "text" Decode.text).decode "TextDocumentItem")).decode
        "DidOpenTextDocumentParams"

/-- A document that was changed, with the texts of the changes in order. -/
structure ChangeParams where
  uri : Url
  fragments : List String
  deriving DecidableEq, Repr

/-- The text of one change. -/
def contentChange : Decoder String :=
  ((fun _ _ text => text) <$> optional "range" Range.decode <*> optional "rangeLength" uint32
    <*> required "text" text).decode "TextDocumentContentChangeEvent"

def ChangeParams.decode : Decoder ChangeParams :=
  (ChangeParams.mk
    <$> required "textDocument"
      (((fun uri _ => uri) <$> required "uri" url <*> required "version" int32).decode
        "VersionedTextDocumentIdentifier")
    <*> required "contentChanges" (list contentChange)).decode "DidChangeTextDocumentParams"

/-- The document that was saved. -/
def saveParams : Decoder Url :=
  ((fun uri _ => uri) <$> required "textDocument" documentIdentifier <*>
    optional "text" text).decode
    "DidSaveTextDocumentParams"

/-- The document that was closed. -/
def closeParams : Decoder Url :=
  (required "textDocument" documentIdentifier).decode "DidCloseTextDocumentParams"

/-! ## Workspace -/

/-- The settings that the client has now. -/
def configurationParams : Decoder Json :=
  (required "settings" any).decode "DidChangeConfigurationParams"

def fileEvent : Decoder Unit :=
  shape "FileEvent" [has "uri" url, has "type" int32]

/-- The changes to watched files. -/
def watchedFilesParams : Decoder (List Unit) :=
  (required "changes" (list fileEvent)).decode "DidChangeWatchedFilesParams"

/-- A command to carry out. -/
structure ExecuteParams where
  command : String
  arguments : List Json
  deriving Repr

def ExecuteParams.decode : Decoder ExecuteParams :=
  decodeObject "ExecuteCommandParams" fun members => do
    let params ← (ExecuteParams.mk <$> required "command" text <*>
      defaulted "arguments" [] (list any)).read members
    let _ ← workDoneToken.group members
    return params

/-- What a client says to a proposed edit. -/
structure EditResponse where
  applied : Bool
  failureReason : Option String
  deriving DecidableEq, Repr

def EditResponse.decode : Decoder EditResponse :=
  ((fun applied reason _ => EditResponse.mk applied reason) <$> required "applied" boolean
    <*> optional "failureReason" text <*> optional "failedChange" uint32).decode
      "ApplyWorkspaceEditResponse"

/-! ## Language features -/

def completionContext : Decoder Unit :=
  shape "CompletionContext" [has "triggerKind" int32, may "triggerCharacter" text]

/-- Where completion is asked for. -/
def completionParams : Decoder DocumentPosition :=
  decodeObject "CompletionParams" fun members => do
    let _ ← (optional "context" completionContext).read members
    let place ← DocumentPosition.record.group members
    let _ ← workDoneToken.group members
    let _ ← partialResultToken.group members
    return place

/-- The diagnostics for which code actions are asked for. -/
def codeActionContext : Decoder (List Diagnostic) :=
  ((fun diagnostics _ _ => diagnostics) <$> required "diagnostics" (list Diagnostic.decode)
    <*> optional "only" (list text) <*> optional "triggerKind" int32).decode "CodeActionContext"

/-- A range for which code actions are asked for, and the diagnostics the client shows there. -/
structure CodeActionParams where
  uri : Url
  range : Range
  diagnostics : List Diagnostic
  deriving Repr

def CodeActionParams.decode : Decoder CodeActionParams :=
  decodeObject "CodeActionParams" fun members => do
    let params ← (CodeActionParams.mk
      <$> required "textDocument" documentIdentifier
      <*> required "range" Range.decode
      <*> required "context" codeActionContext).read members
    let _ ← workDoneToken.group members
    let _ ← partialResultToken.group members
    return params

end Majuscule
