import Majuscule.Wire.Frame
import Majuscule.Wire.Message
import Majuscule.Wire.Workload

/-!
# A connection

A connection takes bytes from a client, carries out the messages in them and returns the messages to
send. Reading comes first: every whole message that has come in is looked at, which may close the
gate or call off requests, and leaves a job (`receive`). Then the jobs are carried out as far as
there is room (`settle`).

The connection is over with a message that cannot be read, with the first message after the end was
announced, or with the end of the input; the session then ends and decides the exit code. A reply
that comes too late for a request that was called off breaks the connection: nothing more is read or
sent.
-/

namespace Majuscule.Wire

/-- The server's end of a connection. -/
structure Connection where
  server : Server := {}
  /-- Bytes that are not a whole message yet. -/
  buffer : List UInt8 := []
  work : Workload := {}
  /-- Whether messages are still read. -/
  isLive : Bool := true
  /-- Whether the connection broke. -/
  isBroken : Bool := false

namespace Connection

/-! ## Reading -/

/-- Take over what looking at a message comes to, and put its job into the queue. -/
def take (c : Connection) (a : Admission) (j : Job) : Connection :=
  { c with
    server := { c.server with gate := a.gate }
    work := (c.work.withdraw a.withdrawal).enqueue j }

/-- Let in a request. One whose identifier is taken is refused, though the
gate takes notice of it. -/
def request (c : Connection) (id : RequestId) (method : String) (params : Option Json) :
    Connection :=
  let a := c.server.gate.admitRequest method params
  if a.isTracked && c.work.isTaken id then
    c.take a { id := some id, task := .finish (some (.error .invalidRequest)) }
  else c.take a { id := some id, task := a.task, isTracked := a.isTracked }

/-- Let in a notification. -/
def notify (c : Connection) (method : String) (params : Option Json) : Connection :=
  let a := c.server.gate.admitNotice method params
  c.take a { id := none, task := a.task }

/-- Take in a reply; one that nobody ever waited for is ignored. -/
def reply (c : Connection) (id : RequestId) (r : ClientReply) : Connection :=
  if c.work.isAbandoned id then { c with isLive := false, isBroken := true }
  else { c with work := c.work.deliver id r }

/-- Look at a message. -/
def receive (c : Connection) (m : Incoming) : Connection :=
  if c.server.gate = .exited then { c with isLive := false }
  else
    match m with
    | .call method params (some id) => c.request id method params
    | .call method params none => c.notify method params
    | .reply id r => c.reply id r

/-- Give up reading, and say why. -/
def refuse (c : Connection) (e : RpcError) : Connection × List Json :=
  ({ c with isLive := false, buffer := [] }, [encodeReply .null (.error e)])

/-- Look at the messages in the buffer, at most `budget` of them. An empty body is no message. -/
def drain : (budget : Nat) → Connection → Connection × List Json
  | 0, c => (c, [])
  | budget + 1, c =>
    if !c.isLive then (c, [])
    else
      match Frame.next c.buffer with
      | .incomplete => (c, [])
      | .malformed => c.refuse .parseError
      | .body bytes rest =>
        let c := { c with buffer := rest }
        if bytes.isEmpty then drain budget c
        else
          match Incoming.read bytes with
          | .error e => c.refuse e
          | .ok m => drain budget (c.receive m)

/-! ## Carrying out -/

/-- Take over what an act did, and the messages it sent. -/
def after (c : Connection) (o : Outcome α) : Connection × List Json :=
  ({ c with server := o.server }, o.sent.map encodeOutbound)

/-- Let a request wait for the client. -/
def await (c : Connection) (v : Waiting) : Connection :=
  { c with work := { c.work with waiting := c.work.waiting ++ [v] } }

/-- Finish the requests that were called off or whose reply has come; the others go on waiting. -/
def conclude (c : Connection) : List Waiting → Connection × List Json
  | [] => (c, [])
  | v :: rest =>
    if v.isWithdrawn then
      let abandoned := if v.reply.isNone then v.number :: c.work.abandoned else c.work.abandoned
      let (c, later) := conclude { c with work := { c.work with abandoned := abandoned } } rest
      (c, encodeReply v.id (.error .canceled) :: later)
    else
      match v.reply with
      | none => conclude (c.await v) rest
      | some r =>
        let o := (Majuscule.conclude v.command r).run c.server
        let (c, sent) := c.after o
        let (c, later) := conclude c rest
        (c, sent ++ encodeReply v.id o.value :: later)

/-- The reply to a job, if it has one. -/
def jobReply (j : Job) (answer : Answer) : List Json :=
  match j.id with
  | some id => [encodeReply id answer]
  | none => []

/-- Carry out a job. -/
def start (c : Connection) (j : Job) : Connection × List Json :=
  if j.isWithdrawn then (c, jobReply j (.error .canceled))
  else
    let o := j.task.run.run c.server
    let (c, sent) := c.after o
    match o.value with
    | none => (c, sent)
    | some (.finished answer) => (c, sent ++ jobReply j answer)
    | some (.awaitingEdit number command) =>
      (c.await { number, id := j.id.getD .null, command }, sent)

/-- Carry out jobs while there is room; the others stay in the queue. -/
def startAll (c : Connection) : List Job → Connection × List Json
  | [] => (c, [])
  | j :: rest =>
    if c.work.waiting.length < Workload.room then
      let (c, sent) := c.start j
      let (c, later) := startAll c rest
      (c, sent ++ later)
    else ({ c with work := { c.work with queue := j :: rest } }, [])

/-- Carry out what can be carried out. -/
def settle (c : Connection) : Connection × List Json :=
  let (c, concluded) := conclude { c with work := { c.work with waiting := [] } } c.work.waiting
  let (c, started) := startAll { c with work := { c.work with queue := [] } } c.work.queue
  (c, concluded ++ started)

/-! ## The connection as a whole -/

/-- Take in bytes and carry out the messages that they complete. -/
def feed (c : Connection) (bytes : List UInt8) : Connection × List Json :=
  let c := { c with buffer := c.buffer ++ bytes }
  let (c, refused) := drain (c.buffer.length + 1) c
  if c.isBroken then (c, [])
  else
    let (c, sent) := c.settle
    (c, refused ++ sent)

/-- The input has ended: what is left of a message cannot be read. -/
def finish (c : Connection) : List Json :=
  if c.isLive && !Frame.mayEnd c.buffer then [encodeReply .null (.error .parseError)] else []

/-- The exit code of a connection that broke. -/
def brokenCode : Nat := 101

/-- The exit code after the end. -/
def exitCode (c : Connection) : Nat :=
  if c.isBroken then brokenCode else c.server.session.exitCode.toNat

end Connection
end Majuscule.Wire
