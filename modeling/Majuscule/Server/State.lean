import Majuscule.Command
import Majuscule.Documents
import Majuscule.Lifecycle.Call

/-!
# The server and its acts

A `Server` is what the server remembers: how far the connection has come (`Gate`), the session, the
open documents, the settings, and the number of its next request to the client. An `Act` is a piece
of its work. It changes the server, sends messages to the client and logs events, and acts one after
another send and log one after another.

The gate decides what reaches the client: a log message until the connection is over, everything
else only between start-up and the end (`Gate.lets`).
-/

namespace Majuscule

/-- How far a connection has come. -/
inductive Gate where
  | uninitialized
  | initialized
  | shutDown
  | exited
  deriving DecidableEq, Repr

/-- A message from the server to the client. -/
inductive Outbound where
  /-- A message for the user. -/
  | logMessage (text : String)
  /-- The problems of a document, in the place of those sent before. -/
  | publish (uri : Url) (diagnostics : List Diagnostic)
  /-- The request to make an edit, under a name that the user sees. -/
  | applyEdit (id : Nat) (label : String) (edit : WorkspaceEdit)
  deriving Repr

namespace Outbound

def method : Outbound → String
  | logMessage _ => "window/logMessage"
  | publish _ _ => "textDocument/publishDiagnostics"
  | applyEdit _ _ _ => "workspace/applyEdit"

/-- The type of a message that only informs. -/
def informationType : Nat := 3

def params : Outbound → Json
  | logMessage text => .obj [("type", .nat informationType), ("message", .str text)]
  | publish uri diagnostics =>
    .obj [("uri", uri.encode), ("diagnostics", Diagnostic.encodeList diagnostics)]
  | applyEdit _ label edit => .obj [("label", .str label), ("edit", edit.encode)]

/-- The identifier of a message that is a request. -/
def id? : Outbound → Option Nat
  | applyEdit id _ _ => some id
  | _ => none

end Outbound

/-- Whether requests to the client can be sent and problems published. -/
def Gate.isOpen : Gate → Bool
  | initialized => true
  | shutDown => true
  | _ => false

/-- Whether a message reaches the client. -/
def Gate.lets (g : Gate) : Outbound → Bool
  | .logMessage _ => g ≠ exited
  | _ => g.isOpen

/-- What the server remembers. -/
structure Server where
  gate : Gate := .uninitialized
  session : Session := .uninitialized
  documents : Documents := .empty
  settings : Settings := {}
  /-- The number of the next request to the client. -/
  nextRequest : Nat := 0
  deriving Repr

/-- What a piece of work comes to. -/
structure Outcome (α : Type) where
  value : α
  server : Server
  sent : List Outbound
  log : List LogEvent

/-- A piece of the server's work. -/
structure Act (α : Type) where
  run : Server → Outcome α

namespace Act

/-- Nothing to do: the value is known. -/
def give (a : α) : Act α := ⟨fun s => ⟨a, s, [], []⟩⟩

/-- One act after another. -/
def andThen (x : Act α) (f : α → Act β) : Act β := ⟨fun s =>
  let first := x.run s
  let second := (f first.value).run first.server
  ⟨second.value, second.server, first.sent ++ second.sent, first.log ++ second.log⟩⟩

instance : Monad Act where
  pure := Act.give
  bind := Act.andThen

/-- The server as it is now. -/
def current : Act Server := ⟨fun s => ⟨s, s, [], []⟩⟩

/-- Change the server. -/
def update (f : Server → Server) : Act Unit := ⟨fun s => ⟨(), f s, [], []⟩⟩

/-- Log events. -/
def noteAll (es : List LogEvent) : Act Unit := ⟨fun s => ⟨(), s, [], es⟩⟩

/-- Log an event. -/
def note (e : LogEvent) : Act Unit := noteAll [e]

/-- Send a message, if the gate lets it through. -/
def send (m : Outbound) : Act Unit := ⟨fun s => ⟨(), s, if s.gate.lets m then [m] else [], []⟩⟩

/-- Carry out a call on the session. -/
def callSession (c : Session.Call) : Act Session.CallResult := ⟨fun s =>
  let outcome := s.session.call c
  ⟨outcome.result, { s with session := outcome.session }, [], outcome.log⟩⟩

/-- Send a request for an edit under the next number; none if the gate is closed. -/
def proposeEdit (label : String) (edit : WorkspaceEdit) : Act (Option Nat) := ⟨fun s =>
  if s.gate.isOpen then
    ⟨some s.nextRequest, { s with nextRequest := s.nextRequest + 1 },
      [.applyEdit s.nextRequest label edit], []⟩
  else ⟨none, s, [], []⟩⟩

/-! ## What acts come to -/

@[simp] theorem run_pure (a : α) (s : Server) : (Pure.pure a : Act α).run s = ⟨a, s, [], []⟩ := rfl

@[simp] theorem run_bind (x : Act α) (f : α → Act β) (s : Server) :
    (x >>= f).run s =
      ⟨((f (x.run s).value).run (x.run s).server).value,
        ((f (x.run s).value).run (x.run s).server).server,
        (x.run s).sent ++ ((f (x.run s).value).run (x.run s).server).sent,
        (x.run s).log ++ ((f (x.run s).value).run (x.run s).server).log⟩ := rfl

@[simp] theorem run_current (s : Server) : current.run s = ⟨s, s, [], []⟩ := rfl

@[simp] theorem run_update (f : Server → Server) (s : Server) :
    (update f).run s = ⟨(), f s, [], []⟩ := rfl

@[simp] theorem run_noteAll (es : List LogEvent) (s : Server) :
    (noteAll es).run s = ⟨(), s, [], es⟩ := rfl

@[simp] theorem run_note (e : LogEvent) (s : Server) : (note e).run s = ⟨(), s, [], [e]⟩ := rfl

@[simp] theorem run_send (m : Outbound) (s : Server) :
    (send m).run s = ⟨(), s, if s.gate.lets m then [m] else [], []⟩ := rfl

end Act
end Majuscule
