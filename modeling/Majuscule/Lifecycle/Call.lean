import Majuscule.Log

/-!
# Calls on a session

The calls that move a session through its life or ask about it, with what each returns and what it
logs. A transition is logged whether it succeeds or is refused; asking is not.
-/

namespace Majuscule.Session

/-- A call on a session. -/
inductive Call where
  | start
  | shutdown
  | ensure
  | exit
  | state
  deriving DecidableEq, Repr

/-- What a call returns. -/
inductive CallResult where
  | ok
  | refused (cause : Refusal)
  | exit (code : ExitCode)
  | state (session : Session)
  deriving DecidableEq, Repr

/-- A result, the session afterwards and what was logged. -/
structure CallOutcome where
  result : CallResult
  session : Session
  log : List LogEvent

/-- What an attempted transition from `s` to `target` comes to. -/
def CallOutcome.ofTransition (s target : Session) : Except Refusal Session → CallOutcome
  | .ok next => ⟨.ok, next, [.transition s target]⟩
  | .error cause => ⟨.refused cause, s, [.transitionRefused s target]⟩

/-- Carry out a call. -/
def call (s : Session) : Call → CallOutcome
  | .start => .ofTransition s initialized s.start
  | .shutdown => .ofTransition s shuttingDown s.shutdown
  | .ensure =>
    match s.ensure with
    | .ok () => ⟨.ok, s, []⟩
    | .error cause => ⟨.refused cause, s, []⟩
  | .exit => ⟨.exit s.exitCode, exited, [.sessionEnded s]⟩
  | .state => ⟨.state s, s, []⟩

end Majuscule.Session
