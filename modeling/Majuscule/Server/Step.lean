import Majuscule.Server.Dispatch

/-!
# Steps of a run

A run of the server is a list of steps, each carried out to its end before the next: a request or a
notification that comes through the gate, a request or a notification handed to the server past the
gate, or a call on its session. Wherever the server asks the client in the course of a step, the
step brings the client's reply.
-/

namespace Majuscule

open Act

/-- A method that can be handed to the server past the gate. -/
inductive DirectMethod where
  | request (method : RequestMethod)
  | notice (method : NoticeMethod)
  deriving DecidableEq, Repr

def DirectMethod.ofName? (name : String) : Option DirectMethod :=
  ((RequestMethod.names.lookup name).map DirectMethod.request).orElse fun _ =>
    (NoticeMethod.names.lookup name).map DirectMethod.notice

/-- One step of a run. -/
inductive Step where
  | request (id : RequestId) (method : String) (params : Option Json) (reply : ClientReply)
  | notify (method : String) (params : Option Json)
  | direct (method : DirectMethod) (params : Json) (reply : ClientReply)
  | session (call : Session.Call)

/-- How a step is answered. -/
inductive StepAnswer where
  /-- There is no reply. -/
  | silent
  /-- The reply to a request. -/
  | reply (id : RequestId) (answer : Answer)
  /-- The connection is over. -/
  | exited
  /-- What a handler returned that was called directly. -/
  | direct (answer : Answer)
  /-- What a call on the session returned. -/
  | session (result : Session.CallResult)

/-- The answer to a request, with the client's reply where it waits for one. -/
def Progress.finish (reply : ClientReply) : Progress → Act Answer
  | finished answer => return answer
  | awaitingEdit _ command => conclude command reply

/-- Answer a request to the end. -/
def answerRequest (id : RequestId) (method : String) (params : Option Json) (reply : ClientReply) :
    Act StepAnswer := do
  match ← dispatchRequest method params with
  | none => return .silent
  | some p => return .reply id (← p.finish reply)

/-- Hand a request or a notification to the server past the gate. -/
def callDirectly (method : DirectMethod) (params : Json) (reply : ClientReply) : Act StepAnswer :=
  match method with
  | .request m =>
    match m.decode params with
    | .error e => return .direct (.error (.invalidParams e.message))
    | .ok r => do
      let p ← r.act
      return .direct (← p.finish reply)
  | .notice m =>
    match m.decode params with
    | .error e => return .direct (.error (.invalidParams e.message))
    | .ok n => do
      n.act
      return .silent

/-- Carry out a step. After the end of the connection nothing comes through the gate. -/
def Step.act : Step → Act StepAnswer
  | request id method params reply => do
    match (← current).gate with
    | .exited => return .exited
    | _ => answerRequest id method params reply
  | notify method params => do
    match (← current).gate with
    | .exited => return .exited
    | _ =>
      dispatchNotice method params
      return .silent
  | direct method params reply => callDirectly method params reply
  | session call => do return .session (← callSession call)

/-- The outcomes of a list of steps, one after another. -/
def runSteps (s : Server) : List Step → List (Outcome StepAnswer)
  | [] => []
  | step :: rest =>
    let outcome := step.act.run s
    outcome :: runSteps outcome.server rest

end Majuscule
