import Majuscule.Completion
import Majuscule.Server.State

/-!
# What the server does

One act for each request (`Request.act`) and each notification (`Notice.act`) with decoded
parameters. Everything but start-up, shutdown and two purely informative notifications first makes
sure that the session is at work: a request is refused otherwise, a notification dropped with a
warning.

The command request comes in two parts, since the server waits for the client in between:
`Request.act` proposes the edit and leaves the request waiting, and `conclude` finishes it with the
client's reply.
-/

namespace Majuscule

open Act

/-! ## Requests and notifications -/

/-- A request with its parameters. -/
inductive Request where
  | start (params : InitializeParams)
  | shutdown
  | completion (place : DocumentPosition)
  | resolve (item : CompletionItem)
  | codeAction (params : CodeActionParams)
  | execute (params : ExecuteParams)

/-- A notification with its parameters. -/
inductive Notice where
  | initialized
  | didOpen (params : OpenParams)
  | didChange (params : ChangeParams)
  | didSave (uri : Url)
  | didClose (uri : Url)
  | didChangeConfiguration (settings : Json)
  | didChangeWatchedFiles (count : Nat)

/-- How the client replies to a request of the server. -/
inductive ClientReply where
  | result (value : Json)
  | error (cause : RpcError)

/-- How far a request has come. -/
inductive Progress where
  | finished (answer : Answer)
  /-- The edit of a command was proposed under a number, and the client has not replied yet. -/
  | awaitingEdit (id : Nat) (command : Command)

/-! ## Start-up and settings -/

/-- What the server can do. -/
def capabilities : Json :=
  .obj [
    ("textDocumentSync", .obj [("openClose", .bool true), ("change", .nat 1),
      ("save", .bool true)]),
    ("completionProvider", .obj [("resolveProvider", .bool true)]),
    ("codeActionProvider", .obj [("codeActionKinds", .arr [.str QuickFix.kind])]),
    ("executeCommandProvider", .obj [("commands", .arr (Command.ids.map .str))])]

/-- The name under which the server presents itself. -/
def serverName : String := "capslock-lsp"

/-- The version that the server reports. -/
def serverVersion : String := "0.1.0"

/-- How the server presents itself at start-up. -/
def introduction : Json :=
  .obj [
    ("serverInfo", .obj [("name", .str serverName), ("version", .str serverVersion)]),
    ("capabilities", capabilities)]

/-- Take over settings if they are any, and say whether they were. -/
def applySettings (v : Json) : Act Bool := do
  match Settings.read v with
  | .unchanged => return false
  | .refused cause =>
    note (.settingsIgnored cause)
    return false
  | .accepted settings =>
    note (.settingsUpdated settings)
    update fun s => { s with settings := settings }
    return true

/-- Start the session, then take over the settings that came along. -/
def start (params : InitializeParams) : Act Answer := do
  match ← callSession .start with
  | .refused cause => return .error cause.toRpcError
  | _ =>
    match params.initializationOptions with
    | some v =>
      let _ ← applySettings v
      return .ok introduction
    | none => return .ok introduction

/-- Begin to shut the session down. -/
def shutdown : Act Answer := do
  note .stopping
  match ← callSession .shutdown with
  | .refused cause => return .error cause.toRpcError
  | _ => return .ok .null

/-! ## Documents -/

/-- The problems of a text that the settings let through. -/
def Settings.limit (settings : Settings) (found : List Diagnostic) : List Diagnostic :=
  found.take settings.maxNumberOfProblems

/-- What the log says about problems that are left out. -/
def limitEvents (settings : Settings) (found : List Diagnostic) : List LogEvent :=
  if settings.maxNumberOfProblems < found.length then
    [.truncated found.length settings.maxNumberOfProblems]
  else []

/-- Publish problems of a document, as many as the settings let through. -/
def publishProblems (settings : Settings) (uri : Url) (found : List Diagnostic) : Act Unit := do
  noteAll (limitEvents settings found)
  note (.published (settings.limit found).length uri)
  send (.publish uri (settings.limit found))

/-- Publish the problems of a document, if it is open. -/
def validate (uri : Url) : Act Unit := do
  let s ← current
  match s.documents.text? uri with
  | none => note (.notOpen uri)
  | some text => publishProblems s.settings uri (diagnose text)

/-- Publish the problems of several documents. -/
def validateAll : List Url → Act Unit
  | [] => return ()
  | uri :: rest => do
    validate uri
    validateAll rest

/-- Do something only while the session is at work, and warn otherwise. -/
def whileAtWork (notification : String) (work : Act Unit) : Act Unit := do
  match (← current).session.ensure with
  | .ok () => work
  | .error cause => note (.dropped notification cause)

/-- The document has the text it was opened with. -/
def didOpen (params : OpenParams) : Act Unit :=
  whileAtWork "didOpen" do
    note (.opened params.uri params.text.utf8ByteSize)
    update fun s => { s with documents := s.documents.put params.uri params.text }
    validate params.uri

/-- Only the last text of a change counts, and a change without texts changes nothing. -/
def didChange (params : ChangeParams) : Act Unit :=
  whileAtWork "didChange" do
    note (.changed params.uri params.fragments.length)
    match (← current).documents.change? params.uri params.fragments with
    | none => return ()
    | some documents =>
      update fun s => { s with documents := documents }
      validate params.uri

/-- Saving changes nothing, but the problems are published again. -/
def didSave (uri : Url) : Act Unit :=
  whileAtWork "didSave" do
    note (.saved uri)
    validate uri

/-- A closed document has no problems any more. -/
def didClose (uri : Url) : Act Unit :=
  whileAtWork "didClose" do
    note (.closed uri)
    update fun s => { s with documents := s.documents.remove uri }
    send (.publish uri [])

/-- New settings apply to every open document at once. -/
def didChangeConfiguration (settings : Json) : Act Unit :=
  whileAtWork "didChangeConfiguration" do
    match ← applySettings settings with
    | false => return ()
    | true =>
      send (.logMessage "capslock-lsp settings updated")
      validateAll (← current).documents.uris

/-- Carry out a notification. -/
def Notice.act : Notice → Act Unit
  | initialized => do
    note .ready
    send (.logMessage "capslock-lsp ready")
  | didOpen params => Majuscule.didOpen params
  | didChange params => Majuscule.didChange params
  | didSave uri => Majuscule.didSave uri
  | didClose uri => Majuscule.didClose uri
  | didChangeConfiguration settings => Majuscule.didChangeConfiguration settings
  | didChangeWatchedFiles count => note (.watchedFiles count)

/-! ## Language features -/

/-- Answer only while the session is at work, and refuse otherwise. -/
def ifAtWork (work : Act Progress) : Act Progress := do
  match (← current).session.ensure with
  | .ok () => work
  | .error cause => return .finished (.error cause.toRpcError)

/-- The same candidates everywhere. -/
def complete (place : DocumentPosition) : Act Progress :=
  ifAtWork do
    note (.completionAsked place.uri place.position)
    return .finished (.ok (.arr (Candidate.all.map fun c => c.item.encode)))

/-- What the log says about an item that stands for no candidate. -/
def unknownEvents (item : CompletionItem) : List LogEvent :=
  match item.candidate? with
  | none => [.unknownCompletion item.label]
  | some _ => []

/-- The item with its details. -/
def resolveItem (item : CompletionItem) : Act Progress :=
  ifAtWork do
    note (.resolveAsked item.label)
    noteAll (unknownEvents item)
    return .finished (.ok item.resolve.encode)

/-- Quick fixes on the wire: null if there are none. -/
def encodeFixes : List QuickFix → Json
  | [] => .null
  | fixes => .arr (fixes.map QuickFix.encode)

/-- The quick fixes for the diagnostics that the client shows. -/
def offerFixes (params : CodeActionParams) : Act Progress :=
  ifAtWork do
    note (.codeActionAsked params.uri params.range params.diagnostics.length)
    return .finished (.ok (encodeFixes (QuickFix.offer params.uri params.diagnostics)))

/-- Propose the edit of a command. A command that the server does not have is ignored. -/
def execute (params : ExecuteParams) : Act Progress :=
  ifAtWork do
    note (.commandAsked params.command)
    match Command.parse params.command params.arguments with
    | .error cause => return .finished (.error cause.toRpcError)
    | .ok none =>
      note (.unknownCommand params.command)
      return .finished (.ok .null)
    | .ok (some command) =>
      match ← proposeEdit command.title command.edit with
      | some id => return .awaitingEdit id command
      | none =>
        note (.editFailed command.id .notInitialized)
        return .finished (.ok .null)

/-- What the log says about the client's reply to a proposed edit. -/
def editEvent (command : Command) : ClientReply → LogEvent
  | .error cause => .editFailed command.id cause
  | .result v =>
    match EditResponse.decode v with
    | .error e => .editFailed command.id ⟨-32700, e.message, none⟩
    | .ok response =>
      if response.applied then .editApplied command.id
      else .editDeclined command.id (response.failureReason.getD "")

/-- Finish a command with the client's reply; the answer does not depend on it. -/
def conclude (command : Command) (reply : ClientReply) : Act Answer := do
  note (editEvent command reply)
  return .ok .null

/-- Carry out a request, up to the point where it waits for the client. -/
def Request.act : Request → Act Progress
  | start params => do return .finished (← Majuscule.start params)
  | shutdown => do return .finished (← Majuscule.shutdown)
  | completion place => complete place
  | resolve item => resolveItem item
  | codeAction params => offerFixes params
  | execute params => Majuscule.execute params

end Majuscule
