import Majuscule.Proofs.Server.InStep

/-!
# The exit code of a run

When serving ends, the session ends with it, and the exit code tells whether it was shutting down.
This file says which runs through the gate end well, by what the client was answered : those in
which a request for shutdown got a result (`exit_success_iff`). There is at most one such request in
a run, since a shutdown that is answered closes the gate for good (`Gate.IsOver`).

The gate closes before a shutdown is looked at. So one that is turned away for its form
(`ClientMessage.IsSpoiltShutdown`) leaves the session at work behind a closed gate, and from then on
the run cannot end well any more.
-/

namespace Majuscule

open Act

/-! ## Answers to shutdown -/

/-- The message is a request for shutdown that is answered with a result. -/
def ClientMessage.isAnsweredShutdown (s : Server) : ClientMessage → Bool
  | request id method params reply =>
    method = "shutdown" && ((request id method params reply).run s).value.isResult
  | notify _ _ => false

/-- How many requests for shutdown are answered with a result in the course of a run. -/
def answeredShutdowns (s : Server) : List ClientMessage → Nat
  | [] => 0
  | m :: rest => (m.isAnsweredShutdown s).toNat + answeredShutdowns (m.run s).server rest

/-- What the session answers when it ends after a run. -/
def exitAfter (ms : List ClientMessage) : StepAnswer :=
  ((Step.session .exit).act.run (serverAfter {} (ms.map ClientMessage.step))).value

theorem exitAfter_eq (ms : List ClientMessage) :
    exitAfter ms = .session (.exit
      (serverAfter {} (ms.map ClientMessage.step)).session.exitCode) := by
  simp [exitAfter, Step.act, Session.call]

theorem isResult_of_isTurnedAway {a : StepAnswer} (h : a.IsTurnedAway) : a.isResult = false := by
  rcases h with rfl | rfl | ⟨id, e, -, rfl⟩ <;> rfl

theorem isAnsweredShutdown_of_isTurnedAway {s : Server} {m : ClientMessage}
    (h : (m.run s).value.IsTurnedAway) : m.isAnsweredShutdown s = false := by
  cases m with
  | notify => rfl
  | request => simp [ClientMessage.isAnsweredShutdown, isResult_of_isTurnedAway h]

theorem eq_shutdown_of_method {r : Request} (h : r.method = .shutdown) : r = .shutdown := by
  cases r <;> simp_all [Request.method]

/-! ## The session shuts down with the answer -/

/-- Whether the session is shutting down, as a number. -/
def Server.shutdownCount (s : Server) : Nat :=
  (decide (s.session = .shuttingDown)).toNat

/-- A message that is answered as a shutdown is the one with which the
session begins to shut down. -/
theorem InStep.shutdownCount_run {s : Server} (h : InStep s) (m : ClientMessage) :
    (m.run s).server.shutdownCount = s.shutdownCount + (m.isAnsweredShutdown s).toNat := by
  rcases m.run_cases s with ⟨id, name, params, reply, r, rfl, hr, -, hg, hrun⟩ |
    ⟨n, -, hn, -, hrun⟩ | ⟨a, g, -, -, ha, -, hrun⟩
  · obtain ⟨method, hname, -, hread⟩ := served?_request_eq_some_iff.mp hr
    have hmethod := method_of_read hread
    have hshutdown : name = "shutdown" ↔ method = .shutdown := RequestMethod.name_eq_iff hname rfl
    rw [← hmethod] at hshutdown
    simp only [ClientMessage.isAnsweredShutdown, hshutdown, hrun]
    rcases h.serve_cases hg with ⟨params, rfl, hs⟩ | ⟨rfl, hs⟩ | ⟨hne, hgate, hg, hs⟩
    · simp [run_serve_start hs, Request.method, Server.shutdownCount, hs]
    · simp [run_serve_shutdown hs, Request.method, Server.shutdownCount, StepAnswer.isResult, hs]
    · obtain ⟨answer, next, sent, log, hserve, -⟩ := run_serve_of_feature hg hs hgate hne id reply
      have hother : r.method ≠ .shutdown := fun hm => hne (eq_shutdown_of_method hm)
      simp [hserve, hother, Server.shutdownCount]
  · have hsession : (m.run s).server.session = s.session := by
      rw [hrun]
      exact (Prod.mk.inj (n.keeps_stage s)).2
    cases m with
    | request => cases hn
    | notify => simp [Server.shutdownCount, hsession, ClientMessage.isAnsweredShutdown]
  · rw [isAnsweredShutdown_of_isTurnedAway (by rw [hrun]; exact ha), hrun]
    rfl

/-- Over a run, the session begins to shut down as often as a shutdown is answered. -/
theorem InStep.shutdownCount_serverAfter {s : Server} (h : InStep s) (ms : List ClientMessage) :
    (Majuscule.serverAfter s (ms.map ClientMessage.step)).shutdownCount =
      s.shutdownCount + answeredShutdowns s ms := by
  induction ms generalizing s with
  | nil => rfl
  | cons m ms ih =>
    have hnext := ih (h.run m)
    rw [h.shutdownCount_run m] at hnext
    rw [answeredShutdowns, ← Nat.add_assoc, ← hnext]
    rfl

theorem shutdownCount_le (s : Server) : s.shutdownCount ≤ 1 :=
  Bool.toNat_le _

theorem exitCode_eq_success_iff (s : Server) :
    s.session.exitCode = .success ↔ 0 < s.shutdownCount := by
  cases h : s.session <;> simp [Session.exitCode, Server.shutdownCount, h]

/-! ## Behind a closed gate -/

/-- The gate was closed, and nothing opens it again. -/
def Gate.IsOver (g : Gate) : Prop :=
  g = shutDown ∨ g = exited

theorem Gate.IsOver.closes {g next : Gate} (h : g.IsOver) (hn : g.Closes next) : next.IsOver := by
  rcases hn with rfl | rfl | ⟨-, rfl⟩
  · exact h
  · exact Or.inr rfl
  · exact Or.inl rfl

/-- Behind a closed gate every message is turned away. -/
theorem run_of_isOver {s : Server} (h : s.gate.IsOver) (m : ClientMessage) :
    (m.run s).value.IsTurnedAway ∧ (m.run s).server.gate.IsOver ∧
      (m.run s).server.session = s.session := by
  rcases m.run_cases s with ⟨_, _, _, _, r, -, -, -, hg, -⟩ | ⟨n, -, -, hg, -⟩ |
    ⟨a, g, -, -, ha, hg, hrun⟩
  · exfalso
    rw [hg] at h
    cases r <;> simp [Gate.IsOver, Request.method, RequestMethod.gate] at h
  · simp [hg, Gate.IsOver] at h
  · rw [hrun]
    exact ⟨ha, h.closes hg, rfl⟩

/-- Behind a closed gate no shutdown is answered with a result, and the session stays as it is. -/
theorem answeredShutdowns_of_isOver {s : Server} (h : s.gate.IsOver) (ms : List ClientMessage) :
    answeredShutdowns s ms = 0 ∧
      (serverAfter s (ms.map ClientMessage.step)).session = s.session := by
  induction ms generalizing s with
  | nil => exact ⟨rfl, rfl⟩
  | cons m ms ih =>
    obtain ⟨hvalue, hgate, hsession⟩ := run_of_isOver h m
    obtain ⟨hrest, hafter⟩ := ih hgate
    refine ⟨?_, hafter.trans hsession⟩
    simp [answeredShutdowns, isAnsweredShutdown_of_isTurnedAway hvalue, hrest]

/-- A shutdown that is not served for its form : it carries parameters, or it was
sent as a notification. -/
def ClientMessage.IsSpoiltShutdown : ClientMessage → Prop
  | request _ method params _ => method = "shutdown" ∧ params.isSome
  | notify method _ => method = "shutdown"

/-- A spoilt shutdown closes the gate and does nothing else. -/
theorem run_of_isSpoiltShutdown {s : Server} (hg : s.gate = .initialized) {m : ClientMessage}
    (h : m.IsSpoiltShutdown) : (m.run s).server = { s with gate := .shutDown } := by
  have hlive : s.gate ≠ .exited := by simp [hg]
  have hname : Method.ofName? "shutdown" = some (.request .shutdown) := rfl
  cases m with
  | request id method params reply =>
    obtain ⟨rfl, hp⟩ := h
    obtain ⟨v, rfl⟩ := Option.isSome_iff_exists.mp hp
    have htask : (s.gate.admitRequest "shutdown" (some v)).task =
        .finish (some (.error (unexpected v))) := by
      simp [Gate.admitRequest, hname, hg, Gate.enter, Method.requestTask, RequestMethod.read]
    rw [run_request_of_finish hlive id reply htask]
    simp [Gate.admitRequest, hname, hg, Gate.enter]
  | notify method params =>
    cases (h : method = "shutdown")
    have htask : (s.gate.admitNotice "shutdown" params).task = .finish none := by
      simp [Gate.admitNotice, hname, hg, Gate.enter, Method.noticeTask]
    rw [run_notify_of_finish hlive htask]
    simp [Gate.admitNotice, hname, hg, Gate.enter]

/-- After a spoilt shutdown the run cannot end well : no later shutdown is answered with a result,
and the session is at work when it ends. -/
theorem InStep.of_isSpoiltShutdown {s : Server} (h : InStep s) (hg : s.gate = .initialized)
    {m : ClientMessage} (hm : m.IsSpoiltShutdown) (after : List ClientMessage) :
    answeredShutdowns (m.run s).server after = 0 ∧
      (Majuscule.serverAfter (m.run s).server (after.map ClientMessage.step)).session =
        .initialized := by
  have hrun := run_of_isSpoiltShutdown hg hm
  have hover : (m.run s).server.gate.IsOver := by
    rw [hrun]
    exact Or.inl rfl
  obtain ⟨hcount, hsession⟩ := answeredShutdowns_of_isOver hover after
  refine ⟨hcount, hsession.trans ?_⟩
  rw [hrun]
  exact h.of_initialized hg

/-! ## The law -/

/-- A run through the gate ends well if and only if a request for shutdown was answered with a
result in its course, which happens at most once; and once a shutdown came in a form that is not
served while the gate was at work, no later one is answered with a result and the run ends badly. -/
theorem exit_success_iff (ms : List ClientMessage) :
    (exitAfter ms = .session (.exit .success) ↔ 0 < answeredShutdowns {} ms) ∧
    answeredShutdowns {} ms ≤ 1 ∧
    ∀ before m after, ms = before ++ m :: after →
      (serverAfter {} (before.map ClientMessage.step)).gate = .initialized → m.IsSpoiltShutdown →
        answeredShutdowns (serverAfter {} ((before ++ [m]).map ClientMessage.step)) after = 0 ∧
        exitAfter ms = .session (.exit .failure) := by
  have hcount := inStep_fresh.shutdownCount_serverAfter ms
  rw [show ({} : Server).shutdownCount = 0 from rfl, Nat.zero_add] at hcount
  refine ⟨?_, ?_, ?_⟩
  · rw [exitAfter_eq, ← hcount, ← exitCode_eq_success_iff]
    simp
  · rw [← hcount]
    exact shutdownCount_le _
  · rintro before m after rfl hg hm
    obtain ⟨hnone, hsession⟩ := (inStep_fresh.serverAfter before).of_isSpoiltShutdown hg hm after
    rw [exitAfter_eq, serverAfter_message, serverAfter_message, hsession]
    exact ⟨hnone, rfl⟩

-- A shutdown that comes as a notification spoils the run, and the request that
-- follows it does not help.
example : exitAfter
    [.request (.number 1) "initialize" (some (.obj [("capabilities", .obj [])])) (.result .null),
      .notify "shutdown" none, .request (.number 2) "shutdown" none (.result .null)] =
    .session (.exit .failure) := rfl

end Majuscule
