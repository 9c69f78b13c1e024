import Majuscule.Server.Dispatch

/-!
# Work under way

A connection carries out several messages at a time. Each message leaves a `Job` in a queue. A job
is started as soon as there is room, and all but one kind are then finished at once: a command that
asks the client for an edit is `Waiting` for the reply and keeps its room. At most `Workload.room`
requests wait at a time.

A request can be called off while it waits for room or for the client (`withdraw`); it is then
answered as canceled when its turn comes. While it is under way and not called off, its identifier
is taken (`isTaken`).
-/

namespace Majuscule.Wire

/-- A message that was let in and is to be carried out. -/
structure Job where
  /-- The identifier to reply under; a notification has none. -/
  id : Option RequestId
  task : Task
  /-- Whether the identifier is taken until the reply. -/
  isTracked : Bool := false
  isWithdrawn : Bool := false

/-- A request that waits for the client's reply to a request of the server. -/
structure Waiting where
  number : Nat
  id : RequestId
  command : Command
  /-- The reply, once it has come. -/
  reply : Option ClientReply := none
  isWithdrawn : Bool := false

/-- The work of a connection. -/
structure Workload where
  /-- What waits for the client, in the order in which it was started. -/
  waiting : List Waiting := []
  /-- What is still to be started. -/
  queue : List Job := []
  /-- The numbers of the server's requests whose reply nobody waits for any more. -/
  abandoned : List Nat := []

namespace Workload

/-- How many requests may wait for the client at a time. -/
def room : Nat := 4

/-- Whether a request under way has an identifier. -/
def isTaken (w : Workload) (id : RequestId) : Bool :=
  w.waiting.any (fun v => !v.isWithdrawn && v.id = id) ||
    w.queue.any fun j => j.isTracked && !j.isWithdrawn && j.id = some id

/-- Put a job at the end of the queue. -/
def enqueue (w : Workload) (j : Job) : Workload :=
  { w with queue := w.queue ++ [j] }

/-- Call off the requests whose identifiers satisfy `p`. -/
def withdrawIf (w : Workload) (p : RequestId → Bool) : Workload :=
  { w with
    waiting := w.waiting.map fun v => if p v.id then { v with isWithdrawn := true } else v
    queue := w.queue.map fun j =>
      if j.isTracked && j.id.any p then { j with isWithdrawn := true } else j }

/-- Call off what a message says. -/
def withdraw (w : Workload) : Withdrawal → Workload
  | .nothing => w
  | .one id => w.withdrawIf (· = id)
  | .all => w.withdrawIf fun _ => true

/-- Hand a reply to the request that waits for it, if one does. -/
def deliver (w : Workload) (id : RequestId) (r : ClientReply) : Workload :=
  { w with
    waiting := w.waiting.map fun v =>
      if RequestId.number v.number = id && v.reply.isNone then { v with reply := some r } else v }

/-- Whether a reply comes too late: the request that waited for it is gone. -/
def isAbandoned (w : Workload) (id : RequestId) : Bool :=
  w.abandoned.any fun n => RequestId.number n = id

end Workload
end Majuscule.Wire
