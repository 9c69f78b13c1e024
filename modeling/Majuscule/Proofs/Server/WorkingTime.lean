import Majuscule.Proofs.Server.InStep

/-!
# The working time of the session

Steps that go past the gate, and calls on the session from outside, can bring the server into any
combination of gate and session. Even then the handlers guard themselves : problems are published,
edits proposed, documents and settings changed only while the session is at work, but for the
settings that come with a start-up that succeeds (`nothing_outside_work`).

What any step can do is said once (`Step.run_cases`) : it carries out a request, or a notification,
or it moves the session by a call and nothing else but the gate. Outside the working time a request
is refused and leaves the server as it is, unless it starts the session (`Request.run_of_idle`), and
a notification does nothing (`Notice.run_of_idle`). A session moves only forward
(`Session.IsOver.call`), so its working time does not come back.
-/

namespace Majuscule

open Act

/-! ## What a step can do -/

/-- The step asks for the start of the session. -/
def Step.isStart : Step → Bool
  | request _ method _ _ => method = "initialize"
  | direct method _ _ => method = .request .start
  | _ => false

/-- The step is a start-up that succeeds. -/
def Step.IsSuccessfulStart (s : Server) (step : Step) : Prop :=
  step.isStart = true ∧ (step.act.run s).value.isResult = true

/-- The message is part of the server's work, and does not only inform the user. -/
def Outbound.IsWork : Outbound → Prop
  | logMessage _ => False
  | publish _ _ => True
  | applyEdit _ _ _ => True

/-- Finishing a request with the client's reply does nothing but log. -/
theorem exists_run_finish (p : Progress) (reply : ClientReply) (s : Server) :
    ∃ answer log, (p.finish reply).run s = ⟨answer, s, [], log⟩ ∧ ∀ a, p = .finished a →
      answer = a := by
  cases p with
  | finished a => exact ⟨a, [], rfl, fun b hb => Progress.finished.inj hb⟩
  | awaitingEdit id command =>
    exact ⟨.ok .null, [editEvent command reply], rfl, fun a ha => nomatch ha⟩

theorem exists_run_openGate (r : Request) (p : Progress) (s : Server) :
    ∃ g, (openGate r p).run s = ⟨(), { s with gate := g }, [], []⟩ := by
  unfold openGate
  split
  · exact ⟨.initialized, rfl⟩
  · exact ⟨s.gate, rfl⟩

/-- A request that is served does what its handler does, and moves the gate. -/
theorem exists_run_serve (r : Request) (id : RequestId) (reply : ClientReply) (s : Server) :
    ∃ answer g log, (r.serve id reply).run s =
        ⟨.reply id answer, { (r.act.run { s with gate := r.method.gateAfter }).server
          with gate := g },
          (r.act.run { s with gate := r.method.gateAfter }).sent, log⟩ ∧
      ∀ a, (r.act.run { s with gate := r.method.gateAfter }).value = .finished a → answer = a := by
  generalize ho : r.act.run { s with gate := r.method.gateAfter } = o
  obtain ⟨g, hg⟩ := exists_run_openGate r o.value o.server
  obtain ⟨answer, log, hfinish, hanswer⟩ :=
    exists_run_finish o.value reply { o.server with gate := g }
  exact ⟨answer, g, o.log ++ log, by simp [Request.serve, ho, hg, hfinish], hanswer⟩

/-- The step carries out a request, whatever it does to the gate. It is a start-up only if the
request is, and it is answered with a result if the request is. -/
structure Step.Serves (s : Server) (step : Step) (r : Request) (g : Gate) : Prop where
  server_eq : ∃ g', (step.act.run s).server =
    { (r.act.run { s with gate := g }).server with gate := g' }
  sent_eq : (step.act.run s).sent = (r.act.run { s with gate := g }).sent
  isStart : r.method = .start → step.isStart = true
  isResult : ∀ v, (r.act.run { s with gate := g }).value = .finished (.ok v) →
    (step.act.run s).value.isResult = true

theorem serves_request {s : Server} {id : RequestId} {name : String} {params : Option Json}
    {reply : ClientReply} {r : Request}
    (h : (ClientMessage.request id name params reply).served? s = some r) :
    (Step.request id name params reply).Serves s r r.method.gateAfter := by
  obtain ⟨answer, g, log, hserve, hanswer⟩ := exists_run_serve r id reply s
  have hrun : (Step.request id name params reply).act.run s = _ :=
    (run_request_of_served h).trans hserve
  refine ⟨⟨g, by rw [hrun]⟩, by rw [hrun], fun hstart => ?_, fun v hv => ?_⟩
  · obtain ⟨m, hm, -, hread⟩ := served?_request_eq_some_iff.mp h
    rw [method_of_read hread] at hstart
    simpa [Step.isStart] using (RequestMethod.name_eq_iff hm rfl).mpr hstart
  · rw [hrun, hanswer _ hv]
    rfl

theorem serves_direct {s : Server} {m : RequestMethod} {params : Json} {r : Request}
    (h : m.decode params = .ok r) (reply : ClientReply) :
    (Step.direct (.request m) params reply).Serves s r s.gate := by
  obtain ⟨answer, log, hfinish, hanswer⟩ :=
    exists_run_finish (r.act.run s).value reply (r.act.run s).server
  have hrun : (Step.direct (.request m) params reply).act.run s =
      ⟨.direct answer, (r.act.run s).server, (r.act.run s).sent, (r.act.run s).log ++ log⟩ := by
    simp [Step.act, callDirectly, h, hfinish]
  refine ⟨⟨(r.act.run s).server.gate, by rw [hrun]⟩, by rw [hrun], fun hstart => ?_, fun v hv => ?_⟩
  · rw [method_of_decode h] at hstart
    simp [Step.isStart, hstart]
  · rw [hrun, hanswer _ hv]
    rfl

/-- A step carries out a request, or a notification, or it moves nothing but the session, by
a call, and the gate. -/
theorem Step.run_cases (step : Step) (s : Server) :
    (∃ r g, step.Serves s r g) ∨
    (∃ n : Notice, (step.act.run s).server = (n.act.run s).server ∧
      (step.act.run s).sent = (n.act.run s).sent) ∨
    (∃ g c, (step.act.run s).server = { s with gate := g, session := (s.session.call c).session } ∧
      (step.act.run s).sent = []) := by
  cases step with
  | request id name params reply =>
    cases h : (ClientMessage.request id name params reply).served? s with
    | some r => exact Or.inl ⟨r, _, serves_request h⟩
    | none =>
      obtain ⟨a, g, -, -, hrun⟩ := run_request_of_not_served h
      have hrun : (Step.request id name params reply).act.run s = _ := hrun
      exact Or.inr (Or.inr ⟨g, .state, by rw [hrun]; rfl, by rw [hrun]⟩)
  | notify name params =>
    cases h : (ClientMessage.notify name params).accepted? s with
    | some n =>
      have hrun : (Step.notify name params).act.run s = _ := run_notify_of_accepted h
      exact Or.inr (Or.inl ⟨n, by rw [hrun], by rw [hrun]⟩)
    | none =>
      obtain ⟨a, g, -, -, hrun⟩ := run_notify_of_not_accepted h
      have hrun : (Step.notify name params).act.run s = _ := hrun
      exact Or.inr (Or.inr ⟨g, .state, by rw [hrun]; rfl, by rw [hrun]⟩)
  | direct method params reply =>
    cases method with
    | request m =>
      cases h : m.decode params with
      | ok r => exact Or.inl ⟨r, _, serves_direct h reply⟩
      | error e =>
        exact Or.inr (Or.inr ⟨s.gate, .state, by simp [Step.act, callDirectly, h, Session.call]⟩)
    | notice m =>
      cases h : m.decode params with
      | ok n => exact Or.inr (Or.inl ⟨n, by simp [Step.act, callDirectly, h]⟩)
      | error e =>
        exact Or.inr (Or.inr ⟨s.gate, .state, by simp [Step.act, callDirectly, h, Session.call]⟩)
  | session call => exact Or.inr (Or.inr ⟨s.gate, call, by simp [Step.act]⟩)

/-! ## The session moves only by calls -/

theorem session_call_ensure (x : Session) : (x.call .ensure).session = x := by
  cases x <;> rfl

theorem run_start_act {s : Server} {params : InitializeParams} {o : Outcome Answer}
    (h : (start params).run s = o) :
    (Request.start params).act.run s = ⟨.finished o.value, o.server, o.sent, o.log⟩ := by
  simp [Request.act, h]

theorem run_shutdown_act {s : Server} {o : Outcome Answer} (h : shutdown.run s = o) :
    Request.shutdown.act.run s = ⟨.finished o.value, o.server, o.sent, o.log⟩ := by
  simp [Request.act, h]

/-- A request moves the session by the call with which its handler begins. -/
theorem Request.session_run (r : Request) (s : Server) :
    (r.act.run s).server.session = (s.session.call r.sessionCall).session := by
  cases r with
  | start params =>
    by_cases h : s.session = .uninitialized
    · rw [run_start_act (run_start h params), h]
      rfl
    · simp [run_start_act (run_start_of_started h params), Request.sessionCall, h, Session.call,
        Session.CallOutcome.ofTransition, Session.start]
  | shutdown =>
    by_cases h : s.session = .initialized
    · rw [run_shutdown_act (run_shutdown h), h]
      rfl
    · simp [run_shutdown_act (run_shutdown_of_idle h), Request.sessionCall, h, Session.call,
        Session.CallOutcome.ofTransition, Session.shutdown]
  | completion place =>
    have hkeeps : Keeps Server.session (complete place) :=
      keeps_ifAtWork ((keeps_note _ _).bind fun _ => keeps_pure _ _)
    exact (hkeeps s).trans (session_call_ensure _).symm
  | resolve item =>
    have hkeeps : Keeps Server.session (resolveItem item) :=
      keeps_ifAtWork ((keeps_note _ _).bind fun _ => (keeps_noteAll _ _).bind fun _ =>
        keeps_pure _ _)
    exact (hkeeps s).trans (session_call_ensure _).symm
  | codeAction params =>
    have hkeeps : Keeps Server.session (offerFixes params) :=
      keeps_ifAtWork ((keeps_note _ _).bind fun _ => keeps_pure _ _)
    exact (hkeeps s).trans (session_call_ensure _).symm
  | execute params =>
    exact (keeps_execute (fun _ _ => rfl) params s).trans (session_call_ensure _).symm

/-- Every step moves the session by a call, if at all. -/
theorem Step.exists_session_call (step : Step) (s : Server) :
    ∃ c, (step.act.run s).server.session = (s.session.call c).session := by
  rcases step.run_cases s with ⟨r, g, h⟩ | ⟨n, hserver, -⟩ | ⟨g, c, hserver, -⟩
  · obtain ⟨g', hserver⟩ := h.server_eq
    exact ⟨r.sessionCall, by rw [hserver]; exact r.session_run _⟩
  · exact ⟨.state, by rw [hserver]; exact (Prod.mk.inj (n.keeps_stage s)).2⟩
  · exact ⟨c, by rw [hserver]⟩

/-! ## A session moves forward -/

/-- The session was ended, or is about to be, and does not work any more. -/
def Session.IsOver (x : Session) : Prop :=
  x = shuttingDown ∨ x = exited

theorem Session.IsOver.call {x : Session} (h : x.IsOver) (c : Session.Call) :
    (x.call c).session.IsOver := by
  rcases h with rfl | rfl <;> cases c <;> simp [Session.call, Session.CallOutcome.ofTransition,
    Session.start, Session.shutdown, Session.ensure, Session.IsOver]

theorem session_call_ne_uninitialized {x : Session} (h : x ≠ .uninitialized) (c : Session.Call) :
    (x.call c).session ≠ .uninitialized := by
  cases x with
  | uninitialized => exact absurd rfl h
  | _ =>
    cases c <;> simp [Session.call, Session.CallOutcome.ofTransition, Session.start,
      Session.shutdown, Session.ensure]

/-- A session that was started does not become one that was not. -/
theorem session_serverAfter_ne_uninitialized {s : Server} (h : s.session ≠ .uninitialized)
    (steps : List Step) : (serverAfter s steps).session ≠ .uninitialized := by
  induction steps generalizing s with
  | nil => exact h
  | cons step steps ih =>
    obtain ⟨c, hc⟩ := step.exists_session_call s
    exact ih (hc ▸ session_call_ne_uninitialized h c)

/-! ## Outside the working time -/

theorem exists_ensure_of_idle {x : Session} (h : x ≠ .initialized) :
    ∃ cause, x.ensure = .error cause := by
  cases x with
  | initialized => exact absurd rfl h
  | _ => exact ⟨_, rfl⟩

/-- Outside the working time a request is refused and changes nothing, unless
it starts the session. -/
theorem Request.run_of_idle {s : Server} (h : s.session ≠ .initialized) (r : Request) :
    (∃ e log, r.act.run s = ⟨.finished (.error e), s, [], log⟩) ∨
    (∃ settings log, r.method = .start ∧ s.session = .uninitialized ∧
      r.act.run s = ⟨.finished (.ok introduction),
        { s with session := .initialized, settings := settings }, [], log⟩) := by
  obtain ⟨cause, hcause⟩ := exists_ensure_of_idle h
  cases r with
  | start params =>
    by_cases hs : s.session = .uninitialized
    · exact Or.inr ⟨_, _, rfl, hs, run_start_act (run_start hs params)⟩
    · exact Or.inl ⟨_, _, run_start_act (run_start_of_started hs params)⟩
  | shutdown => exact Or.inl ⟨_, _, run_shutdown_act (run_shutdown_of_idle h)⟩
  | _ => exact Or.inl ⟨_, _, run_ifAtWork_of_refused hcause _⟩

/-- Outside the working time a notification changes nothing, and all it can send is a
message for the user. -/
theorem Notice.run_of_idle {s : Server} (h : s.session ≠ .initialized) (n : Notice) :
    (n.act.run s).server = s ∧ ∀ m ∈ (n.act.run s).sent, ¬m.IsWork := by
  obtain ⟨cause, hcause⟩ := exists_ensure_of_idle h
  cases n with
  | initialized =>
    refine ⟨rfl, fun m hm => ?_⟩
    have hm : m = .logMessage "capslock-lsp ready" := by simp_all [Notice.act]
    simp [hm, Outbound.IsWork]
  | didChangeWatchedFiles count => exact ⟨rfl, by simp [Notice.act]⟩
  | _ =>
    have hrun := run_whileAtWork_of_refused hcause
    simp [Notice.act, Majuscule.didOpen, Majuscule.didChange, Majuscule.didSave, Majuscule.didClose,
      Majuscule.didChangeConfiguration, hrun]

/-- What a step leaves alone outside the working time. -/
structure Step.Idles (s : Server) (step : Step) : Prop where
  documents_eq : (step.act.run s).server.documents = s.documents
  settings_eq : (step.act.run s).server.settings = s.settings
  not_isWork : ∀ m ∈ (step.act.run s).sent, ¬m.IsWork

/-- Outside the working time a step idles, or it starts the session, which opens no
document and sends nothing. -/
theorem Step.idles_or_starts {s : Server} (h : s.session ≠ .initialized) (step : Step) :
    step.Idles s ∨
      (s.session = .uninitialized ∧ (step.act.run s).server.session = .initialized ∧
        step.IsSuccessfulStart s ∧
        (step.act.run s).server.documents = s.documents ∧ (step.act.run s).sent = []) := by
  rcases step.run_cases s with ⟨r, g, hserves⟩ | ⟨n, hserver, hsent⟩ | ⟨g, c, hserver, hsent⟩
  · obtain ⟨g', hserver⟩ := hserves.server_eq
    have hsent := hserves.sent_eq
    rcases r.run_of_idle (s := { s with gate := g }) h with ⟨e, log, hrun⟩ |
      ⟨settings, log, hstart, hs, hrun⟩
    · rw [hrun] at hserver hsent
      exact Or.inl ⟨by rw [hserver], by rw [hserver], by simp [hsent]⟩
    · have hresult := hserves.isResult introduction (by rw [hrun])
      rw [hrun] at hserver hsent
      exact Or.inr ⟨hs, by rw [hserver], ⟨hserves.isStart hstart, hresult⟩, by rw [hserver], hsent⟩
  · obtain ⟨hidle, hwork⟩ := n.run_of_idle h
    exact Or.inl ⟨by rw [hserver, hidle], by rw [hserver, hidle], by rwa [hsent]⟩
  · exact Or.inl ⟨by rw [hserver], by rw [hserver], by simp [hsent]⟩

/-- The step does the server's work only while the session is at work, and brings settings only then
or with a start-up that succeeds. -/
structure Step.KeepsToWork (s : Server) (step : Step) : Prop where
  of_isWork : (∃ m ∈ (step.act.run s).sent, m.IsWork) → s.session = .initialized
  of_documents : (step.act.run s).server.documents ≠ s.documents → s.session = .initialized
  of_settings : (step.act.run s).server.settings ≠ s.settings →
    s.session = .initialized ∨ step.IsSuccessfulStart s

theorem Step.keepsToWork (step : Step) (s : Server) : step.KeepsToWork s := by
  by_cases hs : s.session = .initialized
  · exact ⟨fun _ => hs, fun _ => hs, fun _ => Or.inl hs⟩
  · rcases step.idles_or_starts hs with hidles | ⟨-, -, hstart, hdocuments, hsent⟩
    · refine ⟨?_, fun hne => absurd hidles.documents_eq hne,
        fun hne => absurd hidles.settings_eq hne⟩
      rintro ⟨m, hm, hwork⟩
      exact absurd hwork (hidles.not_isWork m hm)
    · exact ⟨by simp [hsent], fun hne => absurd hdocuments hne, fun _ => Or.inr hstart⟩

/-! ## Whole runs -/

/-- Before the session starts, no document is open and the settings are those at the beginning. -/
def Server.BlankBeforeStart (s : Server) : Prop :=
  s.session = .uninitialized → s.documents = .empty ∧ s.settings = {}

theorem Server.BlankBeforeStart.run {s : Server} (h : s.BlankBeforeStart) (step : Step) :
    (step.act.run s).server.BlankBeforeStart := by
  intro hnext
  obtain ⟨c, hc⟩ := step.exists_session_call s
  have hs : s.session = .uninitialized :=
    Decidable.byContradiction fun hne => session_call_ne_uninitialized hne c (hc ▸ hnext)
  obtain ⟨hdocuments, hsettings⟩ := h hs
  have hidle : s.session ≠ .initialized := by simp [hs]
  rcases step.idles_or_starts hidle with hidles | ⟨-, hstarted, -⟩
  · exact ⟨hidles.documents_eq.trans hdocuments, hidles.settings_eq.trans hsettings⟩
  · rw [hstarted] at hnext
    cases hnext

theorem Server.BlankBeforeStart.serverAfter {s : Server} (h : s.BlankBeforeStart)
    (steps : List Step) : (serverAfter s steps).BlankBeforeStart := by
  induction steps generalizing s with
  | nil => exact h
  | cons step steps ih => exact ih (h.run step)

/-- Once the session is over, steps of any kind leave documents and settings as they are and send
none of the server's work. -/
theorem Session.IsOver.serverAfter {s : Server} (h : s.session.IsOver) (steps : List Step) :
    (serverAfter s steps).documents = s.documents ∧ (serverAfter s steps).settings = s.settings ∧
      ∀ m ∈ sentIn s steps, ¬m.IsWork := by
  induction steps generalizing s with
  | nil => exact ⟨rfl, rfl, by simp [sentIn, runSteps]⟩
  | cons step steps ih =>
    obtain ⟨c, hc⟩ := step.exists_session_call s
    obtain ⟨hdocuments, hsettings, hsent⟩ := ih (hc ▸ h.call c)
    have hidle : s.session ≠ .initialized := by
      rcases h with h | h <;> simp [h]
    rcases step.idles_or_starts hidle with hidles | ⟨hs, -⟩
    · refine ⟨hdocuments.trans hidles.documents_eq, hsettings.trans hidles.settings_eq,
        fun m hm => ?_⟩
      rcases List.mem_append.mp hm with hm | hm
      · exact hidles.not_isWork m hm
      · exact hsent m hm
    · rcases h with h | h <;> simp [h] at hs

/-- In every run from a fresh server on, whether its steps come through the gate or not : a step
publishes problems, proposes an edit or changes the documents only while the session is at work, and
changes the settings only then or by a start-up that succeeds. So before the session starts no
document is open and the settings are those at the beginning, and once the session has left its work
nothing of all this happens any more. -/
theorem nothing_outside_work (steps : List Step) :
    (∀ before step after, steps = before ++ step :: after →
      step.KeepsToWork (serverAfter {} before)) ∧
    ((serverAfter {} steps).session = .uninitialized →
      (serverAfter {} steps).documents = .empty ∧ (serverAfter {} steps).settings = {}) ∧
    (∀ before between after, steps = before ++ between ++ after →
      (serverAfter {} before).session = .initialized →
      (serverAfter {} (before ++ between)).session ≠ .initialized →
        (serverAfter {} steps).documents = (serverAfter {} (before ++ between)).documents ∧
        (serverAfter {} steps).settings = (serverAfter {} (before ++ between)).settings ∧
        ∀ m ∈ sentIn (serverAfter {} (before ++ between)) after, ¬m.IsWork) := by
  have hblank : ({} : Server).BlankBeforeStart := fun _ => ⟨rfl, rfl⟩
  refine ⟨fun before step _ _ => step.keepsToWork _, hblank.serverAfter steps, ?_⟩
  rintro before between after rfl hbefore hbetween
  have hstarted : (serverAfter {} (before ++ between)).session ≠ .uninitialized := by
    rw [serverAfter_append]
    exact session_serverAfter_ne_uninitialized (by simp [hbefore]) between
  have hover : (serverAfter {} (before ++ between)).session.IsOver := by
    cases h : (serverAfter {} (before ++ between)).session with
    | uninitialized => exact absurd h hstarted
    | initialized => exact absurd h hbetween
    | shuttingDown => exact Or.inl rfl
    | exited => exact Or.inr rfl
  rw [serverAfter_append {} (before ++ between) after]
  exact hover.serverAfter after

end Majuscule
