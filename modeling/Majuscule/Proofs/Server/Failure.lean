import Majuscule.Proofs.Server.WorkingTime

/-!
# Steps that fail

A step fails if it is answered with an error, or if it is a notification that the gate drops
(`Step.Fails`). There are many places where this can happen : at the gate, when the parameters are
decoded, in the guard of a handler, in the life of the session, in the arguments of a command. Each
of them comes before anything is changed or sent, so the server is left as it was
(`Step.run_of_fails`), whatever steps led to it and whether they came through the gate or not. Only
the gate may have moved : a shutdown closes it before it is looked at.

A handler that refuses its request has done nothing else (`Request.run_of_error`), and what is added
around the handler, the opening of the gate and the wait for the client, turns no refusal into a
result and no result into a refusal (`run_serve_of_error`). What the gate turns away by itself has
been described before (`run_of_turned_away`).
-/

namespace Majuscule

open Act

/-! ## Failures -/

/-- The reasons for which the gate drops a notification. -/
inductive Gate.Drops (g : Gate) (name : String) (params : Option Json) : Prop where
  /-- The connection is over. -/
  | disconnected (h : g = .exited)
  /-- Nobody knows the method. -/
  | unknown (h : Method.ofName? name = none)
  /-- The method may not be called now. -/
  | closed {m : Method} {e : RpcError} (hname : Method.ofName? name = some m)
    (h : g.enter m = .error e)
  /-- The method is that of a request. -/
  | request {m : RequestMethod} (hname : Method.ofName? name = some (.request m))
  /-- The method is that of a request, and nobody serves it. -/
  | unservedRequest {decode : Decoder Unit}
    (hname : Method.ofName? name = some (.unservedRequest decode))
  /-- Nobody serves the method. -/
  | unservedNotice (hname : Method.ofName? name = some .unservedNotice)
  /-- The parameters are missing or do not decode. -/
  | params {m : NoticeMethod} {e : RpcError} (hname : Method.ofName? name = some (.notice m))
    (h : present m.decode params = .error e)

/-- The answer is an error. -/
def StepAnswer.IsError : StepAnswer → Prop
  | reply _ (.error _) => True
  | direct (.error _) => True
  | exited => True
  | _ => False

/-- The step is answered with an error, or it is a notification that the gate drops. -/
inductive Step.Fails (s : Server) : Step → Prop where
  | answered {step : Step} (h : (step.act.run s).value.IsError) : Fails s step
  | dropped {name : String} {params : Option Json} (h : s.gate.Drops name params) :
    Fails s (.notify name params)

/-- The step is a shutdown that comes through the gate. -/
def Step.isShutdown : Step → Bool
  | request _ method _ _ => method = "shutdown"
  | notify method _ => method = "shutdown"
  | _ => false

/-- The gate after a step that fails : a shutdown at work has closed it. -/
def Step.gateAfterFailure (g : Gate) (step : Step) : Gate :=
  if step.isShutdown = true ∧ g = .initialized then .shutDown else g

/-! ## Handlers that refuse -/

/-- A handler that refuses its request has changed nothing and sent nothing. -/
theorem Request.run_of_error {r : Request} {s : Server} {e : RpcError}
    (h : (r.act.run s).value = .finished (.error e)) :
    (r.act.run s).server = s ∧ (r.act.run s).sent = [] := by
  by_cases hs : s.session = .initialized
  · cases r with
    | start params =>
      have hstarted : s.session ≠ .uninitialized := by simp [hs]
      rw [run_start_act (run_start_of_started hstarted params)]
      exact ⟨rfl, rfl⟩
    | shutdown =>
      rw [run_shutdown_act (run_shutdown hs)] at h
      cases h
    | completion place =>
      rw [show (Request.completion place).act.run s = _ from run_complete hs place] at h
      cases h
    | resolve item =>
      rw [show (Request.resolve item).act.run s = _ from run_resolveItem hs item] at h
      cases h
    | codeAction params =>
      rw [show (Request.codeAction params).act.run s = _ from run_offerFixes hs params] at h
      cases h
    | execute params =>
      have hact : (Request.execute params).act = Majuscule.execute params := rfl
      rw [hact] at h ⊢
      cases hp : Command.parse params.command params.arguments with
      | error cause =>
        rw [run_execute_of_refused hs hp]
        exact ⟨rfl, rfl⟩
      | ok c =>
        cases c with
        | none =>
          rw [run_execute_of_unknown hs hp] at h
          cases h
        | some c =>
          -- A command that the server has is proposed, or ignored behind a closed
          -- gate, but never refused.
          cases hg : s.gate.isOpen with
          | true =>
            rw [run_execute_of_known hs hg hp] at h
            cases h
          | false =>
            simp [Majuscule.execute, run_ifAtWork hs, hp, run_proposeEdit_of_closed hg] at h
  · rcases r.run_of_idle hs with ⟨e', log, hrun⟩ | ⟨settings, log, -, -, hrun⟩
    · rw [hrun]
      exact ⟨rfl, rfl⟩
    · rw [hrun] at h
      cases h

/-- Only a start-up that succeeds opens the gate. -/
theorem openGate_of_error (r : Request) (e : RpcError) :
    openGate r (.finished (.error e)) = return () := by
  cases r <;> rfl

/-- A request that is served and answered with an error was refused by its handler. -/
theorem run_serve_of_error {r : Request} {s : Server} {id id' : RequestId} {reply : ClientReply}
    {e : RpcError} (h : ((r.serve id reply).run s).value = .reply id' (.error e)) :
    ((r.serve id reply).run s).server = { s with gate := r.method.gateAfter } ∧
      ((r.serve id reply).run s).sent = [] := by
  cases hv : (r.act.run { s with gate := r.method.gateAfter }).value with
  | awaitingEdit i c => simp [Request.serve, hv, Progress.finish, conclude] at h
  | finished answer =>
    cases answer with
    | ok v => simp [Request.serve, hv, Progress.finish] at h
    | error e' =>
      obtain ⟨hserver, hsent⟩ := Request.run_of_error hv
      simp [Request.serve, hv, hserver, hsent, openGate_of_error, Progress.finish]

/-! ## The gate turns messages away -/

theorem Gate.Drops.not_accepted {s : Server} {name : String} {params : Option Json}
    (h : s.gate.Drops name params) : (ClientMessage.notify name params).accepted? s = none := by
  cases hn : (ClientMessage.notify name params).accepted? s with
  | none => rfl
  | some n =>
    obtain ⟨hg, m, hm, hdecode⟩ := accepted?_notify_eq_some_iff.mp hn
    have hnotice := ofName?_notice_iff.mpr hm
    cases h with
    | disconnected h => simp [hg] at h
    | unknown h => simp [hnotice] at h
    | closed hname h =>
      obtain rfl := Option.some.inj (hnotice.symm.trans hname)
      simp [Gate.enter, hg] at h
    | params hname h =>
      cases Option.some.inj (hnotice.symm.trans hname)
      rw [hdecode] at h
      cases h
    | request hname | unservedRequest hname | unservedNotice hname => cases hnotice.symm.trans hname

/-- The end of the connection is not dropped while there is one. -/
theorem Gate.Drops.ne_exit {g : Gate} {name : String} {params : Option Json}
    (h : g.Drops name params) (hg : g ≠ .exited) : name ≠ "exit" := by
  rintro rfl
  have hexit : Method.ofName? "exit" = some .exit := rfl
  cases h with
  | disconnected h => exact hg h
  | unknown h => cases hexit.symm.trans h
  | closed hname h =>
    obtain rfl := Option.some.inj (hexit.symm.trans hname)
    cases h
  | params hname | request hname | unservedRequest hname | unservedNotice hname =>
    cases hexit.symm.trans hname

/-- A message that is turned away and does not end the connection leaves the
gate as a failure does. -/
theorem gateAfter_eq_gateAfterFailure {g : Gate} {m : ClientMessage}
    (h : g = .exited ∨ m.method ≠ "exit") : m.gateAfter g = m.step.gateAfterFailure g := by
  rcases h with rfl | hexit
  · rw [gateAfter_exited, Step.gateAfterFailure, if_neg (by simp)]
  · rw [gateAfter_eq, if_neg hexit, Step.gateAfterFailure]
    refine ite_congr ?_ (fun _ => rfl) fun _ => rfl
    cases m <;> simp [ClientMessage.step, ClientMessage.method, Step.isShutdown]

/-- A request that ends the connection is not answered. -/
theorem not_isError_exit {s : Server} (hg : s.gate ≠ .exited) (id : RequestId)
    (params : Option Json) (reply : ClientReply) :
    ¬((ClientMessage.request id "exit" params reply).run s).value.IsError := by
  have htask : (s.gate.admitRequest "exit" params).task = .finish none := rfl
  rw [run_request_of_finish hg id reply htask]
  exact not_false

/-- A message that is turned away leaves everything but the gate as it is. -/
theorem run_of_turned_away_failing {s : Server} {m : ClientMessage} (hr : m.served? s = none)
    (hn : m.accepted? s = none) (hexit : s.gate = .exited ∨ m.method ≠ "exit") :
    (m.step.act.run s).server = { s with gate := m.step.gateAfterFailure s.gate } ∧
      (m.step.act.run s).sent = [] := by
  rw [← gateAfter_eq_gateAfterFailure hexit]
  exact run_of_turned_away hr hn

/-! ## Every kind of step -/

/-- A notification that is dropped at the gate. -/
theorem run_of_drops {s : Server} {name : String} {params : Option Json}
    (h : s.gate.Drops name params) :
    ((Step.notify name params).act.run s).server =
        { s with gate := (Step.notify name params).gateAfterFailure s.gate } ∧
      ((Step.notify name params).act.run s).sent = [] := by
  refine run_of_turned_away_failing (m := .notify name params) rfl h.not_accepted ?_
  by_cases hg : s.gate = .exited
  · exact Or.inl hg
  · exact Or.inr (h.ne_exit hg)

/-- A notification is answered only when the connection is over. -/
theorem exited_of_isError_notify {s : Server} {name : String} {params : Option Json}
    (h : ((Step.notify name params).act.run s).value.IsError) : s.gate = .exited := by
  cases hg : s.gate with
  | exited => rfl
  | _ => simp [Step.act, hg, StepAnswer.IsError] at h

/-- The gate behind a request that is served and refused. -/
theorem gateAfter_of_served {s : Server} {id : RequestId} {name : String} {params : Option Json}
    {reply : ClientReply} {r : Request}
    (h : (ClientMessage.request id name params reply).served? s = some r) :
    r.method.gateAfter = (Step.request id name params reply).gateAfterFailure s.gate := by
  obtain ⟨m, hname, hg, hread⟩ := served?_request_eq_some_iff.mp h
  have hshutdown : name = "shutdown" ↔ m = .shutdown := RequestMethod.name_eq_iff hname rfl
  simp only [Step.gateAfterFailure, Step.isShutdown, decide_eq_true_eq, hshutdown,
    method_of_read hread, hg]
  cases m <;> rfl

/-- A request that is answered with an error was turned away at the gate, or
refused by its handler. -/
theorem run_of_isError_request {s : Server} {id : RequestId} {name : String} {params : Option Json}
    {reply : ClientReply} (h : ((Step.request id name params reply).act.run s).value.IsError) :
    ((Step.request id name params reply).act.run s).server =
        { s with gate := (Step.request id name params reply).gateAfterFailure s.gate } ∧
      ((Step.request id name params reply).act.run s).sent = [] := by
  cases hr : (ClientMessage.request id name params reply).served? s with
  | none =>
    refine run_of_turned_away_failing (m := .request id name params reply) hr rfl ?_
    by_cases hg : s.gate = .exited
    · exact Or.inl hg
    · refine Or.inr ?_
      rintro (rfl : name = "exit")
      exact not_isError_exit hg id params reply h
  | some r =>
    have hrun : (Step.request id name params reply).act.run s = _ := run_request_of_served hr
    obtain ⟨answer, g, log, hserve, -⟩ := exists_run_serve r id reply s
    rw [hrun] at h ⊢
    rw [← gateAfter_of_served hr]
    cases answer with
    | ok v =>
      rw [hserve] at h
      exact h.elim
    | error e => exact run_serve_of_error (congrArg Outcome.value hserve)

/-- A request handed to the server past the gate and answered with an error was refused by its
handler, unless its parameters do not decode; the gate has no part in it. -/
theorem run_of_isError_direct {s : Server} {method : DirectMethod} {params : Json}
    {reply : ClientReply} (h : ((Step.direct method params reply).act.run s).value.IsError) :
    ((Step.direct method params reply).act.run s).server = s ∧
      ((Step.direct method params reply).act.run s).sent = [] := by
  cases method with
  | notice m =>
    cases hn : m.decode params with
    | error e => simp [Step.act, callDirectly, hn]
    | ok n => simp [Step.act, callDirectly, hn, StepAnswer.IsError] at h
  | request m =>
    cases hr : m.decode params with
    | error e => simp [Step.act, callDirectly, hr]
    | ok r =>
      cases hv : (r.act.run s).value with
      | awaitingEdit i c =>
        simp [Step.act, callDirectly, hr, hv, Progress.finish, conclude, StepAnswer.IsError] at h
      | finished answer =>
        cases answer with
        | ok v => simp [Step.act, callDirectly, hr, hv, Progress.finish, StepAnswer.IsError] at h
        | error e =>
          obtain ⟨hserver, hsent⟩ := Request.run_of_error hv
          simp [Step.act, callDirectly, hr, hv, hserver, hsent, Progress.finish]

/-- A step that fails leaves the server as it was, but for the gate behind a
shutdown, and sends nothing. -/
theorem Step.run_of_fails {s : Server} {step : Step} (h : step.Fails s) :
    (step.act.run s).server = { s with gate := step.gateAfterFailure s.gate } ∧
      (step.act.run s).sent = [] := by
  cases h with
  | dropped hdrops => exact run_of_drops hdrops
  | answered herror =>
    cases step with
    | request id name params reply => exact run_of_isError_request herror
    | notify name params => exact run_of_drops (.disconnected (exited_of_isError_notify herror))
    | direct method params reply => exact run_of_isError_direct herror
    | session call => exact herror.elim

/-! ## Runs -/

/-- Where a step changes nothing and sends nothing, the run goes on as if it had not been there. -/
theorem serverAfter_leaving_out {s : Server} {step : Step} (hserver : (step.act.run s).server = s)
    (hsent : (step.act.run s).sent = []) (after : List Step) :
    serverAfter s (step :: after) = serverAfter s after ∧
      sentIn s (step :: after) = sentIn s after := by
  have hsentIn : sentIn s (step :: after) =
      (step.act.run s).sent ++ sentIn (step.act.run s).server after := rfl
  rw [serverAfter, hsentIn, hserver, hsent]
  exact ⟨rfl, rfl⟩

/-- Whatever steps came before, a step that fails leaves documents, settings, session and
numbering as they were and sends nothing; the gate stays where it was as well, unless the step is
a shutdown that finds it at work, and that closes it. In all other cases the run goes on as if the
step had not been there. -/
theorem failed_step_leaves_server (before : List Step) (step : Step)
    (h : step.Fails (serverAfter {} before)) :
    (step.act.run (serverAfter {} before)).server =
        { serverAfter {} before with
          gate :=
            if step.isShutdown = true ∧ (serverAfter {} before).gate = .initialized then .shutDown
            else (serverAfter {} before).gate } ∧
      (step.act.run (serverAfter {} before)).sent = [] ∧
      (¬(step.isShutdown = true ∧ (serverAfter {} before).gate = .initialized) → ∀ after,
        serverAfter {} (before ++ step :: after) = serverAfter {} (before ++ after) ∧
        sentIn {} (before ++ step :: after) = sentIn {} (before ++ after)) := by
  obtain ⟨hserver, hsent⟩ := Step.run_of_fails h
  refine ⟨hserver, hsent, fun hshutdown after => ?_⟩
  have hsame : (step.act.run (serverAfter {} before)).server = serverAfter {} before := by
    rw [hserver, Step.gateAfterFailure, if_neg hshutdown]
  obtain ⟨hafter, hsentIn⟩ := serverAfter_leaving_out hsame hsent after
  rw [serverAfter_append, serverAfter_append, sentIn_append, sentIn_append, hafter, hsentIn]
  exact ⟨rfl, rfl⟩

theorem failed_step_leaves_server_at_shutdown :
    (Step.request (.number 2) "shutdown" (some .null) (.result .null)).Fails (serverAfter {}
      [.request (.number 1) "initialize" (some (.obj [("capabilities", .obj [])]))
        (.result .null)]) ∧
    ((Step.request (.number 2) "shutdown" (some .null) (.result .null)).act.run (serverAfter {}
      [.request (.number 1) "initialize" (some (.obj [("capabilities", .obj [])]))
        (.result .null)])).server = { gate := .shutDown, session := .initialized } := by
  have hfails :
      (Step.request (.number 2) "shutdown" (some .null) (.result .null)).Fails (serverAfter {}
        [.request (.number 1) "initialize" (some (.obj [("capabilities", .obj [])]))
          (.result .null)]) :=
    .answered trivial
  exact ⟨hfails, (failed_step_leaves_server _ _ hfails).1⟩

end Majuscule
