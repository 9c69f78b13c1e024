import Majuscule.Protocol.Rpc

/-!
# The life of a session

A session is started once, shut down once after that, and ended at any time. `Session` is the state
of this machine and `Session.call` what each call does to it: a call that is out of order is refused
and changes nothing. The exit code is that of success only if the session was shutting down when it
ended.

`Refusal` holds the reasons for which the server refuses a request, with their wording and their
codes.
-/

namespace Majuscule

/-- Where a session is in its life. -/
inductive Session where
  | uninitialized
  | initialized
  | shuttingDown
  | exited
  deriving DecidableEq, Repr

/-- The name of a state. -/
def Session.name : Session → String
  | uninitialized => "uninitialized"
  | initialized => "initialized"
  | shuttingDown => "shutting down"
  | exited => "exited"

/-- Why the server refuses a request. -/
inductive Refusal where
  | notInitialized
  | shuttingDown
  | invalidTransition (source target : Session)
  | invalidArguments (command reason : String)
  deriving DecidableEq, Repr

namespace Refusal

/-- The wording of a refusal. -/
def message : Refusal → String
  | notInitialized => "server not initialized"
  | shuttingDown => "server is shutting down"
  | invalidTransition source target =>
    "illegal lifecycle transition from " ++ source.name ++ " to " ++ target.name
  | invalidArguments command reason =>
    "invalid arguments for command '" ++ command ++ "': " ++ reason

/-- The code of a refusal in an error reply. -/
def code : Refusal → Int
  | notInitialized => -32002
  | shuttingDown => -32600
  | invalidTransition _ _ => -32600
  | invalidArguments _ _ => -32602

/-- A refusal as an error reply. -/
def toRpcError (r : Refusal) : RpcError :=
  ⟨r.code, r.message, none⟩

end Refusal

/-- What a process reports when it ends. -/
inductive ExitCode where
  | success
  | failure
  deriving DecidableEq, Repr

/-- An exit code as a number. -/
def ExitCode.toNat : ExitCode → Nat
  | success => 0
  | failure => 1

namespace Session

/-- Start the session: only once. -/
def start (s : Session) : Except Refusal Session :=
  if s = uninitialized then .ok initialized else .error (.invalidTransition s initialized)

/-- Begin to shut the session down: only after the start. -/
def shutdown (s : Session) : Except Refusal Session :=
  if s = initialized then .ok shuttingDown else .error (.invalidTransition s shuttingDown)

/-- Whether the session does its work now. -/
def ensure : Session → Except Refusal Unit
  | initialized => .ok ()
  | uninitialized => .error .notInitialized
  | shuttingDown => .error .shuttingDown
  | exited => .error .shuttingDown

/-- The exit code of a session that ends now. -/
def exitCode (s : Session) : ExitCode :=
  if s = shuttingDown then .success else .failure

end Session
end Majuscule
