import Majuscule.Proofs.Server.Frame
import Majuscule.Proofs.Server.Run

/-!
# Gate and session in step

The gate and the session are two machines that move at different moments. Shutdown closes the gate
before it is looked at, so a shutdown that is turned away moves the gate and not the session; the
end of the connection moves the gate alone. `InStep` is what holds between the two all the same:
they start together, the session is at work while the gate is, and it shuts down only behind a
closed gate.

Every message through the gate keeps them in step (`InStep.run`). While they are, the call on the
session with which a handler begins (`Request.sessionCall`, `Notice.sessionCall?`) is never refused,
and so no reply and no line of the log tells of a refusal (`gate_session_in_step`).
-/

namespace Majuscule

open Act

/-! ## The relation -/

/-- What holds between the gate and the session of a server that is reached through the gate. -/
structure InStep (s : Server) : Prop where
  uninitialized_iff : s.gate ≠ .exited → (s.gate = .uninitialized ↔ s.session = .uninitialized)
  of_initialized : s.gate = .initialized → s.session = .initialized
  of_shutDown : s.gate = .shutDown → s.session = .initialized ∨ s.session = .shuttingDown
  of_shuttingDown : s.gate ≠ .exited → s.session = .shuttingDown → s.gate = .shutDown
  not_exited : s.session ≠ .exited

theorem inStep_fresh : InStep {} where
  uninitialized_iff := by simp
  of_initialized := by simp
  of_shutDown := by simp
  of_shuttingDown := by simp
  not_exited := by simp

/-- The relation is one between gate and session alone. -/
theorem InStep.of_stage {s t : Server} (h : InStep s) (hst : t.stage = s.stage) : InStep t := by
  obtain ⟨hg, hs⟩ := Prod.mk.inj hst
  exact ⟨by rw [hg, hs]; exact h.1, by rw [hg, hs]; exact h.2, by rw [hg, hs]; exact h.3,
    by rw [hg, hs]; exact h.4, by rw [hs]; exact h.5⟩

/-- A gate that closes leaves the two in step. -/
theorem InStep.of_closes {s : Server} (h : InStep s) {g : Gate} (hg : s.gate.Closes g) :
    InStep { s with gate := g } := by
  rcases hg with rfl | rfl | ⟨hi, rfl⟩
  · exact h
  · exact ⟨by simp, by simp, by simp, by simp, h.not_exited⟩
  · have hs := h.of_initialized hi
    exact ⟨by simp [hs], by simp, by simp [hs], by simp, by simp [hs]⟩

/-! ## The calls that handlers make -/

/-- The call on the session with which the handler of a request begins. -/
def Request.sessionCall : Request → Session.Call
  | start _ => .start
  | shutdown => .shutdown
  | _ => .ensure

/-- The call on the session with which the handler of a notification begins, if it makes one. -/
def Notice.sessionCall? : Notice → Option Session.Call
  | initialized => none
  | didChangeWatchedFiles _ => none
  | _ => some .ensure

theorem ensure_of_refused {x : Session} {cause : Refusal}
    (h : (x.call .ensure).result = .refused cause) : x.ensure = .error cause := by
  cases x <;> simp_all [Session.call, Session.ensure]

/-- A request whose call is refused is answered with the refusal. -/
theorem value_run_of_refused {s : Server} {r : Request} {cause : Refusal}
    (h : (s.session.call r.sessionCall).result = .refused cause) :
    (r.act.run s).value = .finished (.error cause.toRpcError) := by
  cases r with
  | start params =>
    simp only [Request.sessionCall] at h
    simp [Request.act, start, h]
  | shutdown =>
    simp only [Request.sessionCall] at h
    simp [Request.act, shutdown, h]
  | _ => exact congrArg Outcome.value (run_ifAtWork_of_refused (ensure_of_refused h) _)

/-- A notification whose call is refused is dropped with a warning. -/
theorem run_of_dropped {s : Server} {n : Notice} {c : Session.Call} {cause : Refusal}
    (hc : n.sessionCall? = some c) (h : (s.session.call c).result = .refused cause) :
    ∃ name, n.act.run s = ⟨(), s, [], [.dropped name cause]⟩ := by
  cases n with
  | initialized => cases hc
  | didChangeWatchedFiles count => cases hc
  | _ =>
    cases hc
    exact ⟨_, run_whileAtWork_of_refused (ensure_of_refused h) _ _⟩

/-- While gate and session are in step, the calls that handlers make are never refused. -/
structure CallsSucceed (s : Server) (m : ClientMessage) : Prop where
  of_served : ∀ r, m.served? s = some r → (s.session.call r.sessionCall).result = .ok
  of_accepted : ∀ n, m.accepted? s = some n → ∀ c ∈ n.sessionCall?, (s.session.call c).result = .ok

theorem InStep.callsSucceed {s : Server} (h : InStep s) (m : ClientMessage) : CallsSucceed s m where
  of_served r hr := by
    rcases m.run_cases s with ⟨id, name, params, reply, r', -, hr', -, hg, -⟩ | ⟨n, hr', -⟩ |
      ⟨a, g, hr', -⟩
    · cases hr.symm.trans hr'
      cases r with
      | start params =>
        have hs := (h.uninitialized_iff (by rw [hg]; exact gate_ne_exited _)).mp hg
        simp [Request.sessionCall, Session.call, Session.CallOutcome.ofTransition, Session.start,
          hs]
      | shutdown =>
        have hs := h.of_initialized hg
        simp [Request.sessionCall, Session.call, Session.CallOutcome.ofTransition, Session.shutdown,
          hs]
      | _ =>
        have hs := h.of_initialized hg
        simp [Request.sessionCall, Session.call, Session.ensure, hs]
    · cases hr.symm.trans hr'
    · cases hr.symm.trans hr'
  of_accepted n hn c hc := by
    have hg : s.gate = .initialized := by
      rcases m.run_cases s with ⟨_, _, _, _, _, -, -, hn', -⟩ | ⟨n', -, -, hg, -⟩ |
        ⟨_, _, -, hn', -⟩
      · cases hn.symm.trans hn'
      · exact hg
      · cases hn.symm.trans hn'
    have hs := h.of_initialized hg
    have hensure : c = .ensure := by
      cases n <;> simp_all [Notice.sessionCall?]
    simp [hensure, Session.call, Session.ensure, hs]

/-! ## Requests that are served -/

/-- Start-up opens the gate, starts the session and takes over the settings that come along. -/
theorem run_serve_start {s : Server} (hs : s.session = .uninitialized) (params : InitializeParams)
    (id : RequestId) (reply : ClientReply) :
    ((Request.start params).serve id reply).run s =
      ⟨.reply id (.ok introduction),
        { s with
          gate := .initialized
          session := .initialized
          settings := (params.initializationOptions.bind Settings.accepted?).getD s.settings }, [],
        .transition .uninitialized .initialized ::
          (params.initializationOptions.map settingsEvents).getD []⟩ := by
  have h := run_start (s := { s with gate := .uninitialized }) hs params
  simp [Request.serve, Request.act, Request.method, RequestMethod.gateAfter, h, openGate,
    Progress.finish]

/-- Shutdown closes the gate and begins to shut the session down. -/
theorem run_serve_shutdown {s : Server} (hs : s.session = .initialized) (id : RequestId)
    (reply : ClientReply) :
    (Request.shutdown.serve id reply).run s =
      ⟨.reply id (.ok .null), { s with gate := .shutDown, session := .shuttingDown }, [],
        [.stopping, .transition .initialized .shuttingDown]⟩ := by
  have h := run_shutdown (s := { s with gate := .shutDown }) hs
  simp [Request.serve, Request.act, Request.method, RequestMethod.gateAfter, h, openGate,
    Progress.finish]

/-- A request that only asks is answered at once, and nothing but the log changes. -/
theorem run_serve_of_finished {s : Server} (hg : s.gate = .initialized) {r : Request}
    (hr : r.method.gate = .initialized) (hshut : r ≠ .shutdown) {answer : Answer}
    {log : List LogEvent} (h : r.act.run s = ⟨.finished answer, s, [], log⟩) (id : RequestId)
    (reply : ClientReply) : (r.serve id reply).run s = ⟨.reply id answer, s, [], log⟩ := by
  have hs : ({ s with gate := .initialized } : Server) = s := by
    rw [← hg]
  have hafter : r.method.gateAfter = .initialized := by
    cases r <;> simp_all [Request.method, RequestMethod.gate, RequestMethod.gateAfter]
  cases r with
  | start params => cases hr
  | _ => simp [Request.serve, hafter, hs, h, openGate, Progress.finish]

/-- A command that is proposed waits for the client, and then the answer is null
whatever the client says. -/
theorem run_serve_execute_of_known {s : Server} (hg : s.gate = .initialized)
    (hs : s.session = .initialized) {params : ExecuteParams} {c : Command}
    (hp : Command.parse params.command params.arguments = .ok (some c)) (id : RequestId)
    (reply : ClientReply) :
    ((Request.execute params).serve id reply).run s =
      ⟨.reply id (.ok .null), { s with nextRequest := s.nextRequest + 1 },
        [.applyEdit s.nextRequest c.title c.edit],
        [.commandAsked params.command, editEvent c reply]⟩ := by
  have hgate : ({ s with gate := .initialized } : Server) = s := by
    rw [← hg]
  have h := run_execute_of_known hs (by rw [hg]; rfl) hp
  simp [Request.serve, Request.act, Request.method, RequestMethod.gateAfter, hgate, h, openGate,
    Progress.finish, conclude]

/-- The only reason to refuse a command is its arguments. -/
theorem parse_eq_error {name : String} {arguments : List Json} {cause : Refusal}
    (h : Command.parse name arguments = .error cause) :
    ∃ reason, cause = .invalidArguments name reason := by
  unfold Command.parse at h
  split at h
  · split at h
    · cases h
    · cases h
      exact ⟨_, rfl⟩
  · cases h

/-! ## Replies and log without refusals -/

/-- The event tells of a call on the session that was refused. -/
def LogEvent.IsRefusal : LogEvent → Prop
  | transitionRefused _ _ => True
  | dropped _ _ => True
  | _ => False

/-- The refusal is one for the state of the session, and not for the arguments of a command. -/
def Refusal.IsSequencing : Refusal → Prop
  | invalidArguments _ _ => False
  | _ => True

/-- The reply carries a refusal for the state of the session. -/
def StepAnswer.IsSequencingError (a : StepAnswer) : Prop :=
  ∃ id cause, Refusal.IsSequencing cause ∧ a = .reply id (.error cause.toRpcError)

/-- The errors of the gate are told apart from the refusals of the session by their wording. -/
theorem toRpcError_ne_of_gateError {cause : Refusal} {e : RpcError} (hc : cause.IsSequencing)
    (he : GateError e) : e ≠ cause.toRpcError := by
  intro h
  have hcode := congrArg RpcError.code h
  have hmessage := congrArg RpcError.message h
  cases cause with
  | invalidArguments command reason => exact hc
  | invalidTransition source target =>
    cases he with
    | invalidRequest => cases source <;> cases target <;> exact absurd hmessage (by decide)
    | _ =>
      simp [Refusal.toRpcError, Refusal.code, RpcError.notInitialized, RpcError.methodNotFound,
        unknownMethod, RpcError.invalidParams] at hcode
  | notInitialized =>
    cases he with
    | notInitialized => exact absurd hmessage (by decide)
    | _ =>
      simp [Refusal.toRpcError, Refusal.code, RpcError.invalidRequest, RpcError.methodNotFound,
        unknownMethod, RpcError.invalidParams] at hcode
  | shuttingDown =>
    cases he with
    | invalidRequest => exact absurd hmessage (by decide)
    | _ =>
      simp [Refusal.toRpcError, Refusal.code, RpcError.notInitialized, RpcError.methodNotFound,
        unknownMethod, RpcError.invalidParams] at hcode

theorem not_isSequencingError_ok (id : RequestId) (v : Json) :
    ¬(StepAnswer.reply id (.ok v)).IsSequencingError := by
  rintro ⟨id', cause, -, h⟩
  cases h

theorem not_isSequencingError_invalidArguments (id : RequestId) (command reason : String) :
    ¬(StepAnswer.reply id
      (.error (Refusal.invalidArguments command reason).toRpcError)).IsSequencingError := by
  rintro ⟨id', cause, hc, h⟩
  injection h with _ h
  have hcode := congrArg RpcError.code (Except.error.inj h)
  cases cause with
  | invalidArguments => exact hc
  | _ => simp [Refusal.toRpcError, Refusal.code] at hcode

theorem not_isSequencingError_of_isTurnedAway {a : StepAnswer} (h : a.IsTurnedAway) :
    ¬a.IsSequencingError := by
  rintro ⟨id, cause, hc, rfl⟩
  rcases h with h | h | ⟨id', e, he, h⟩
  · cases h
  · cases h
  · injection h with _ h
    exact toRpcError_ne_of_gateError hc he (Except.error.inj h).symm

theorem logsOnly_validate (uri : Url) : LogsOnly (¬·.IsRefusal) (validate uri) := by
  refine (logsOnly_current _).bind fun s => ?_
  cases s.documents.text? uri with
  | none => exact logsOnly_note (by simp [LogEvent.IsRefusal])
  | some text =>
    refine (logsOnly_noteAll fun e he => ?_).bind fun _ => (logsOnly_note ?_).bind fun _ =>
      logsOnly_send _ _
    · unfold limitEvents at he
      split at he <;> simp_all [LogEvent.IsRefusal]
    · simp [LogEvent.IsRefusal]

theorem logsOnly_validateAll (uris : List Url) : LogsOnly (¬·.IsRefusal) (validateAll uris) := by
  induction uris with
  | nil => exact logsOnly_pure _ _
  | cons uri rest ih => exact (logsOnly_validate uri).bind fun _ => ih

theorem not_isRefusal_settingsEvents {v : Json} {e : LogEvent} (h : e ∈ settingsEvents v) :
    ¬e.IsRefusal := by
  unfold settingsEvents at h
  split at h <;> simp_all [LogEvent.IsRefusal]

theorem logsOnly_applySettings (v : Json) : LogsOnly (¬·.IsRefusal) (applySettings v) := by
  intro s e he
  rw [run_applySettings] at he
  exact not_isRefusal_settingsEvents he

/-- The work of a guarded notification is all that it logs while the session is at work. -/
theorem forall_log_whileAtWork {s : Server} (h : s.session = .initialized) {p : LogEvent → Prop}
    {work : Act Unit} (hw : LogsOnly p work) (notification : String) :
    ∀ e ∈ ((whileAtWork notification work).run s).log, p e := by
  rw [run_whileAtWork h]
  exact hw s

/-- While the session is at work, no notification logs a refusal. -/
theorem not_isRefusal_of_notice {s : Server} (h : s.session = .initialized) (n : Notice) :
    ∀ e ∈ (n.act.run s).log, ¬e.IsRefusal := by
  cases n with
  | initialized => simp [Notice.act, LogEvent.IsRefusal]
  | didOpen params =>
    exact forall_log_whileAtWork h ((logsOnly_note (by simp [LogEvent.IsRefusal])).bind fun _ =>
      (logsOnly_update _ _).bind fun _ => logsOnly_validate _) _
  | didChange params =>
    refine forall_log_whileAtWork h ((logsOnly_note (by simp [LogEvent.IsRefusal])).bind fun _ =>
      (logsOnly_current _).bind fun s => ?_) _
    cases s.documents.change? params.uri params.fragments with
    | none => exact logsOnly_pure _ _
    | some documents => exact (logsOnly_update _ _).bind fun _ => logsOnly_validate _
  | didSave uri =>
    exact forall_log_whileAtWork h ((logsOnly_note (by simp [LogEvent.IsRefusal])).bind fun _ =>
      logsOnly_validate _) _
  | didClose uri =>
    exact forall_log_whileAtWork h ((logsOnly_note (by simp [LogEvent.IsRefusal])).bind fun _ =>
      (logsOnly_update _ _).bind fun _ => logsOnly_send _ _) _
  | didChangeConfiguration settings =>
    refine forall_log_whileAtWork h ((logsOnly_applySettings _).bind fun applied => ?_) _
    cases applied with
    | false => exact logsOnly_pure _ _
    | true =>
      exact (logsOnly_send _ _).bind fun _ => (logsOnly_current _).bind fun s =>
        logsOnly_validateAll _
  | didChangeWatchedFiles count => simp [Notice.act, LogEvent.IsRefusal]

theorem not_isRefusal_editEvent (c : Command) (reply : ClientReply) :
    ¬(editEvent c reply).IsRefusal := by
  unfold editEvent
  split
  · simp [LogEvent.IsRefusal]
  · split
    · simp [LogEvent.IsRefusal]
    · split <;> simp [LogEvent.IsRefusal]

/-- A request for a language feature is answered with a result, or refused for the arguments of a
command. It sends nothing but proposed edits and changes nothing but their number. -/
theorem run_serve_of_feature {s : Server} (hg : s.gate = .initialized)
    (hs : s.session = .initialized) {r : Request} (hr : r.method.gate = .initialized)
    (hshut : r ≠ .shutdown) (id : RequestId) (reply : ClientReply) :
    ∃ answer next sent log,
      (r.serve id reply).run s =
        ⟨.reply id answer, { s with nextRequest := next }, sent, log⟩ ∧
      ((∃ v, answer = .ok v) ∨
        ∃ command reason, answer = .error (Refusal.invalidArguments command reason).toRpcError) ∧
      (∀ m ∈ sent, ∃ i label edit, m = .applyEdit i label edit) ∧ ∀ e ∈ log, ¬e.IsRefusal := by
  cases r with
  | start params => cases hr
  | shutdown => exact absurd rfl hshut
  | completion place =>
    refine ⟨_, s.nextRequest, [], _, run_serve_of_finished hg hr hshut
      (run_complete hs place) id reply, Or.inl ⟨_, rfl⟩, by simp, by simp [LogEvent.IsRefusal]⟩
  | resolve item =>
    refine ⟨_, s.nextRequest, [], _, run_serve_of_finished hg hr hshut
      (run_resolveItem hs item) id reply, Or.inl ⟨_, rfl⟩, by simp, ?_⟩
    unfold unknownEvents
    split <;> simp [LogEvent.IsRefusal]
  | codeAction params =>
    refine ⟨_, s.nextRequest, [], _, run_serve_of_finished hg hr hshut
      (run_offerFixes hs params) id reply, Or.inl ⟨_, rfl⟩, by simp, by simp [LogEvent.IsRefusal]⟩
  | execute params =>
    cases hp : Command.parse params.command params.arguments with
    | error cause =>
      obtain ⟨reason, rfl⟩ := parse_eq_error hp
      exact ⟨_, s.nextRequest, [], _, run_serve_of_finished hg hr hshut
        (run_execute_of_refused hs hp) id reply, Or.inr ⟨_, _, rfl⟩, by simp,
        by simp [LogEvent.IsRefusal]⟩
    | ok c =>
      cases c with
      | none =>
        exact ⟨_, s.nextRequest, [], _, run_serve_of_finished hg hr hshut
          (run_execute_of_unknown hs hp) id reply, Or.inl ⟨_, rfl⟩, by simp,
          by simp [LogEvent.IsRefusal]⟩
      | some c =>
        refine ⟨_, _, _, _, run_serve_execute_of_known hg hs hp id reply, Or.inl ⟨_, rfl⟩,
          by simp, ?_⟩
        simpa [LogEvent.IsRefusal] using not_isRefusal_editEvent c reply

/-- While gate and session are in step, a served request starts the session, shuts it down,
or asks for a feature. -/
theorem InStep.serve_cases {s : Server} (h : InStep s) {r : Request} (hg : s.gate = r.method.gate) :
    (∃ params, r = .start params ∧ s.session = .uninitialized) ∨
    (r = .shutdown ∧ s.session = .initialized) ∨
    (r ≠ .shutdown ∧ r.method.gate = .initialized ∧ s.gate = .initialized ∧
      s.session = .initialized) := by
  cases r with
  | start params =>
    have hlive : s.gate ≠ .exited := hg ▸ gate_ne_exited _
    exact Or.inl ⟨params, rfl, (h.uninitialized_iff hlive).mp hg⟩
  | shutdown => exact Or.inr (Or.inl ⟨rfl, h.of_initialized hg⟩)
  | _ => exact Or.inr (Or.inr ⟨by simp, rfl, hg, h.of_initialized hg⟩)

/-! ## Every message, every run -/

/-- Every message keeps gate and session in step. -/
theorem InStep.run {s : Server} (h : InStep s) (m : ClientMessage) : InStep (m.run s).server := by
  rcases m.run_cases s with ⟨id, _, _, reply, r, -, -, -, hg, hrun⟩ | ⟨n, -, -, -, hrun⟩ |
    ⟨a, g, -, -, -, hg, hrun⟩
  · rw [hrun]
    rcases h.serve_cases hg with ⟨params, rfl, hs⟩ | ⟨rfl, hs⟩ | ⟨hshut, hr, hg, hs⟩
    · rw [run_serve_start hs]
      exact ⟨by simp, by simp, by simp, by simp, by simp⟩
    · rw [run_serve_shutdown hs]
      exact ⟨by simp, by simp, by simp, by simp, by simp⟩
    · obtain ⟨answer, next, sent, log, hserve, -⟩ := run_serve_of_feature hg hs hr hshut id reply
      rw [hserve]
      exact h.of_stage rfl
  · rw [hrun]
    exact h.of_stage (n.keeps_stage s)
  · rw [hrun]
    exact h.of_closes hg

/-- While gate and session are in step, no reply carries a refusal for the state of the session, and
no refusal is logged. -/
theorem InStep.run_without_refusal {s : Server} (h : InStep s) (m : ClientMessage) :
    ¬(m.run s).value.IsSequencingError ∧ ∀ e ∈ (m.run s).log, ¬e.IsRefusal := by
  rcases m.run_cases s with ⟨id, _, _, reply, r, -, -, -, hg, hrun⟩ | ⟨n, -, -, hg, hrun⟩ |
    ⟨a, g, -, -, ha, -, hrun⟩
  · rw [hrun]
    rcases h.serve_cases hg with ⟨params, rfl, hs⟩ | ⟨rfl, hs⟩ | ⟨hshut, hr, hg, hs⟩
    · rw [run_serve_start hs]
      refine ⟨not_isSequencingError_ok id _, fun e he => ?_⟩
      rcases List.mem_cons.mp he with rfl | he
      · simp [LogEvent.IsRefusal]
      · cases ho : params.initializationOptions with
        | none => simp [ho] at he
        | some v => exact not_isRefusal_settingsEvents (by simpa [ho] using he)
    · rw [run_serve_shutdown hs]
      exact ⟨not_isSequencingError_ok id _, by simp [LogEvent.IsRefusal]⟩
    · obtain ⟨answer, next, sent, log, hserve, hanswer, -, hlog⟩ :=
        run_serve_of_feature hg hs hr hshut id reply
      rw [hserve]
      refine ⟨?_, hlog⟩
      rcases hanswer with ⟨v, rfl⟩ | ⟨command, reason, rfl⟩
      · exact not_isSequencingError_ok id v
      · exact not_isSequencingError_invalidArguments id command reason
  · rw [hrun]
    refine ⟨?_, not_isRefusal_of_notice (h.of_initialized hg) n⟩
    rintro ⟨id, cause, -, he⟩
    cases he
  · rw [hrun]
    exact ⟨not_isSequencingError_of_isTurnedAway ha, by simp⟩

/-- Every run through the gate keeps gate and session in step. -/
theorem InStep.serverAfter {s : Server} (h : InStep s) (ms : List ClientMessage) :
    InStep (serverAfter s (ms.map ClientMessage.step)) := by
  induction ms generalizing s with
  | nil => exact h
  | cons m ms ih => exact ih (h.run m)

/-- From a fresh server on, every run through the gate leaves gate and session in step; every call
on the session that a handler makes in its course succeeds; and no reply and no line of the log
tells of a refused call. -/
theorem gate_session_in_step (ms : List ClientMessage) :
    InStep (serverAfter {} (ms.map ClientMessage.step)) ∧
    (∀ before m after, ms = before ++ m :: after →
      CallsSucceed (serverAfter {} (before.map ClientMessage.step)) m) ∧
    ∀ o ∈ runSteps {} (ms.map ClientMessage.step), ¬o.value.IsSequencingError ∧
    ∀ e ∈ o.log, ¬e.IsRefusal := by
  refine ⟨inStep_fresh.serverAfter ms, fun before m after _ => ?_, fun o ho => ?_⟩
  · exact (inStep_fresh.serverAfter before).callsSucceed m
  · obtain ⟨before, step, after, hms, rfl⟩ := mem_runSteps_iff.mp ho
    obtain ⟨before', rest, -, rfl, hrest⟩ := List.map_eq_append_iff.mp hms
    obtain ⟨m, after', -, rfl, -⟩ := List.map_eq_cons_iff.mp hrest
    exact (inStep_fresh.serverAfter before').run_without_refusal m

end Majuscule
