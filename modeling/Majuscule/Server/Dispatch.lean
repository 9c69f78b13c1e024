import Majuscule.Json.Printer
import Majuscule.Protocol.Unserved
import Majuscule.Server.Handler

/-!
# Methods and who may call them when

Messages name what they want by a method. `Method.ofName?` knows the methods; some are known but not
served. The gate then decides whether the method may be called now (`Gate.enter`): start-up comes
first and only once, everything else after it and before shutdown, and the end may come at any time.
Only then is it checked that a request method came as a request and a notification method as a
notification, and only after that the parameters are decoded.

A request that fails one of these checks is answered with an error, a notification is dropped.
Shutdown closes the gate before its form and its parameters are looked at.

All this happens when a message comes in (`Gate.admitRequest`, `Gate.admitNotice`) and leaves a
`Task`, which may be carried out later; `dispatchRequest` and `dispatchNotice` do both at once.
-/

namespace Majuscule

open Act

/-! ## Methods -/

/-- The requests that the server serves. -/
inductive RequestMethod where
  | start
  | shutdown
  | completion
  | resolve
  | codeAction
  | execute
  deriving DecidableEq, Repr

/-- The notifications that the server serves. -/
inductive NoticeMethod where
  | initialized
  | didOpen
  | didChange
  | didSave
  | didClose
  | didChangeConfiguration
  | didChangeWatchedFiles
  deriving DecidableEq, Repr

/-- A method that the server knows. -/
inductive Method where
  | request (method : RequestMethod)
  | notice (method : NoticeMethod)
  /-- A request that nobody answers, with the shape of its parameters. -/
  | unservedRequest (params : Decoder Unit)
  | unservedNotice
  | exit
  | cancel

/-- The names of the requests. -/
def RequestMethod.names : List (String × RequestMethod) := [
  ("initialize", start),
  ("shutdown", shutdown),
  ("textDocument/completion", completion),
  ("completionItem/resolve", resolve),
  ("textDocument/codeAction", codeAction),
  ("workspace/executeCommand", execute)]

/-- The names of the notifications. -/
def NoticeMethod.names : List (String × NoticeMethod) := [
  ("initialized", initialized),
  ("textDocument/didOpen", didOpen),
  ("textDocument/didChange", didChange),
  ("textDocument/didSave", didSave),
  ("textDocument/didClose", didClose),
  ("workspace/didChangeConfiguration", didChangeConfiguration),
  ("workspace/didChangeWatchedFiles", didChangeWatchedFiles)]

/-- The names of the methods that are known for other reasons. -/
def Method.otherNames : List (String × Method) :=
  [("exit", exit), ("$/cancelRequest", cancel)] ++
    Unserved.requests.map (fun r => (r.1, unservedRequest r.2)) ++
    Unserved.notices.map (fun name => (name, unservedNotice))

/-- The method with a name. -/
def Method.ofName? (name : String) : Option Method :=
  ((RequestMethod.names.lookup name).map Method.request).orElse fun _ =>
    ((NoticeMethod.names.lookup name).map Method.notice).orElse fun _ =>
      Method.otherNames.lookup name

/-! ## Parameters -/

/-- Decode the parameters of a request. Shutdown has none. -/
def RequestMethod.decode : RequestMethod → Decoder Request
  | start => fun v => (InitializeParams.decode v).map .start
  | shutdown => fun _ => .ok .shutdown
  | completion => fun v => (completionParams v).map .completion
  | resolve => fun v => (CompletionItem.decode v).map .resolve
  | codeAction => fun v => (CodeActionParams.decode v).map .codeAction
  | execute => fun v => (ExecuteParams.decode v).map .execute

/-- Decode the parameters of a notification. -/
def NoticeMethod.decode : NoticeMethod → Decoder Notice
  | initialized => fun v => (initializedParams v).map fun _ => .initialized
  | didOpen => fun v => (OpenParams.decode v).map .didOpen
  | didChange => fun v => (ChangeParams.decode v).map .didChange
  | didSave => fun v => (saveParams v).map .didSave
  | didClose => fun v => (closeParams v).map .didClose
  | didChangeConfiguration => fun v => (configurationParams v).map .didChangeConfiguration
  | didChangeWatchedFiles =>
    fun v => (watchedFilesParams v).map fun changes => .didChangeWatchedFiles changes.length

/-- Decode parameters that have to be there. -/
def present (decode : Decoder α) : Option Json → Except RpcError α
  | none => .error (.invalidParams "Missing params field")
  | some v => (decode v).mapError fun e => .invalidParams e.message

/-- The parameters of a request, if there are any, as a message shows them. -/
def unexpected (params : Json) : RpcError :=
  .invalidParams ("Unexpected params: " ++ params.compress)

/-- The request with a method and parameters. -/
def RequestMethod.read (m : RequestMethod) (params : Option Json) : Except RpcError Request :=
  match m, params with
  | shutdown, none => .ok .shutdown
  | shutdown, some v => .error (unexpected v)
  | m, params => present m.decode params

/-! ## The gate -/

/-- Why a method may not be called outside the working time. -/
def Gate.closedError : Gate → RpcError
  | uninitialized => .notInitialized
  | _ => .invalidRequest

/-- The gate after a method was called, or the error if it may not be called now. -/
def Gate.enter (g : Gate) : Method → Except RpcError Gate
  | .exit => .ok exited
  | .cancel => .ok g
  | .request .start => if g = uninitialized then .ok uninitialized else .error .invalidRequest
  | .request .shutdown => if g = initialized then .ok shutDown else .error g.closedError
  | _ => if g = initialized then .ok initialized else .error g.closedError

/-! ## Admission -/

/-- What is left to do for a message after it was looked at. -/
inductive Task where
  /-- Nothing but the reply, if there is one. -/
  | finish (answer : Option Answer)
  | request (r : Request)
  | notice (n : Notice)

/-- Which of the requests under way a message calls off. -/
inductive Withdrawal where
  | nothing
  | one (id : RequestId)
  | all
  deriving DecidableEq, Repr

/-- What comes of looking at a message. -/
structure Admission where
  /-- The gate afterwards. -/
  gate : Gate
  task : Task
  /-- Whether a request takes up its identifier until it is answered. -/
  isTracked : Bool := false
  withdrawal : Withdrawal := .nothing

/-- The task of a request, with its parameters decoded. -/
def Method.requestTask (params : Option Json) : Method → Task
  | request m =>
    match m.read params with
    | .error e => .finish (some (.error e))
    | .ok r => .request r
  | notice _ => .finish (some (.error .invalidRequest))
  | unservedNotice => .finish (some (.error .invalidRequest))
  | cancel => .finish (some (.error .invalidRequest))
  | exit => .finish none
  | unservedRequest decode =>
    match present decode params with
    | .error e => .finish (some (.error e))
    | .ok _ => .finish (some (.error .methodNotFound))

/-- The task of a notification, with its parameters decoded. -/
def Method.noticeTask (params : Option Json) : Method → Task
  | notice m =>
    match present m.decode params with
    | .error _ => .finish none
    | .ok n => .notice n
  | _ => .finish none

/-- Whether requests with a method take up their identifiers. -/
def Method.isTracked : Method → Bool
  | exit => false
  | cancel => false
  | _ => true

/-- The identifier under which the client sent a number or a text. -/
def RequestId.ofNumberOrString : NumberOrString → RequestId
  | .number n => .number n.toInt
  | .text s => .text s

/-- The request that a client calls off. -/
def cancelParams : Decoder NumberOrString :=
  (Decode.Record.required "id" NumberOrString.decode).decode "CancelParams"

/-- What a notification calls off. -/
def Method.withdrawal (params : Option Json) : Method → Withdrawal
  | exit => .all
  | cancel =>
    match present cancelParams params with
    | .ok id => .one (.ofNumberOrString id)
    | .error _ => .nothing
  | _ => .nothing

/-- The error for a method that nobody knows. -/
def unknownMethod (name : String) : RpcError :=
  { RpcError.methodNotFound with data := some (.str name) }

/-- A method whose name starts so may be ignored. -/
def isOptional (name : String) : Bool :=
  name.startsWith "$/"

/-- Look at a request. -/
def Gate.admitRequest (g : Gate) (name : String) (params : Option Json) : Admission :=
  match Method.ofName? name with
  | none =>
    { gate := g
      task := .finish (if isOptional name then none else some (.error (unknownMethod name))) }
  | some m =>
    match g.enter m with
    | .error e => { gate := g, task := .finish (some (.error e)) }
    | .ok gate =>
      { gate := gate
        task := m.requestTask params
        isTracked := m.isTracked
        withdrawal := match m with
          | .exit => .all
          | _ => .nothing }

/-- Look at a notification. -/
def Gate.admitNotice (g : Gate) (name : String) (params : Option Json) : Admission :=
  match Method.ofName? name with
  | none => { gate := g, task := .finish none }
  | some m =>
    match g.enter m with
    | .error _ => { gate := g, task := .finish none }
    | .ok gate => { gate := gate, task := m.noticeTask params, withdrawal := m.withdrawal params }

/-! ## Dispatch -/

/-- Start-up that succeeds opens the gate. -/
def openGate (r : Request) (p : Progress) : Act Unit :=
  match r, p with
  | .start _, .finished (.ok _) => update fun s => { s with gate := .initialized }
  | _, _ => return ()

/-- Carry out a task, up to the point where it waits for the client; none if there is no reply. -/
def Task.run : Task → Act (Option Progress)
  | finish answer => return answer.map .finished
  | request r => do
    let p ← r.act
    openGate r p
    return some p
  | notice n => do
    n.act
    return none

/-- Answer a request, up to the point where it waits for the client; none if there is no reply. -/
def dispatchRequest (name : String) (params : Option Json) : Act (Option Progress) := do
  let admission := (← current).gate.admitRequest name params
  update fun s => { s with gate := admission.gate }
  admission.task.run

/-- Carry out a notification, or drop it. -/
def dispatchNotice (name : String) (params : Option Json) : Act Unit := do
  let admission := (← current).gate.admitNotice name params
  update fun s => { s with gate := admission.gate }
  let _ ← admission.task.run
  return ()

end Majuscule
