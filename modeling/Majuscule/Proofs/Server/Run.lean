import Majuscule.Proofs.Decode.Record
import Majuscule.Server.Step

/-!
# Runs through the gate

A run of the server is a list of steps. `serverAfter` is the server after them and `sentIn` what
they send, and both split where the list does. `ClientMessage` is a step that comes through the
gate, a request or a notification.

What such a message can do is said once. Either it is accepted as a notification
(`ClientMessage.accepted?`), or it is served as a request (`ClientMessage.served?`), or it is turned
away, and then at most the gate closes (`ClientMessage.run_cases`). Everything about runs through
the gate is derived from these three cases. Where the gate stands after a message that is turned
away depends on the method alone (`gateAfter_eq`, `run_of_turned_away`).
-/

namespace Majuscule

open Act

/-! ## Runs -/

/-- The server after some steps. -/
def serverAfter (s : Server) : List Step → Server
  | [] => s
  | step :: rest => serverAfter (step.act.run s).server rest

/-- What some steps send to the client, in order. -/
def sentIn (s : Server) (steps : List Step) : List Outbound :=
  (runSteps s steps).flatMap Outcome.sent

theorem serverAfter_append (s : Server) (xs ys : List Step) :
    serverAfter s (xs ++ ys) = serverAfter (serverAfter s xs) ys := by
  induction xs generalizing s with
  | nil => rfl
  | cons x xs ih => exact ih _

theorem runSteps_append (s : Server) (xs ys : List Step) :
    runSteps s (xs ++ ys) = runSteps s xs ++ runSteps (serverAfter s xs) ys := by
  induction xs generalizing s with
  | nil => rfl
  | cons x xs ih => simp only [List.cons_append, runSteps, serverAfter, ih]

theorem sentIn_append (s : Server) (xs ys : List Step) :
    sentIn s (xs ++ ys) = sentIn s xs ++ sentIn (serverAfter s xs) ys := by
  rw [sentIn, runSteps_append, List.flatMap_append]
  rfl

/-- Every outcome of a run is that of one of its steps, on the server that the
steps before it left. -/
theorem mem_runSteps_iff {s : Server} {steps : List Step} {o : Outcome StepAnswer} :
    o ∈ runSteps s steps ↔
      ∃ before step after, steps = before ++ step :: after ∧
        o = step.act.run (serverAfter s before) := by
  constructor
  · intro h
    induction steps generalizing s with
    | nil => simp [runSteps] at h
    | cons step rest ih =>
      rcases List.mem_cons.mp h with rfl | h
      · exact ⟨[], step, rest, rfl, rfl⟩
      · obtain ⟨before, step', after, rfl, ho⟩ := ih h
        exact ⟨step :: before, step', after, rfl, ho⟩
  · rintro ⟨before, step, after, rfl, rfl⟩
    rw [runSteps_append]
    exact List.mem_append_right _ List.mem_cons_self

/-- The step is answered with a result. -/
def StepAnswer.isResult : StepAnswer → Bool
  | reply _ (.ok _) => true
  | direct (.ok _) => true
  | _ => false

/-! ## Messages through the gate -/

/-- A message that a client sends through the gate. A request brings the client's reply to what the
server asks meanwhile. -/
inductive ClientMessage where
  | request (id : RequestId) (method : String) (params : Option Json) (reply : ClientReply)
  | notify (method : String) (params : Option Json)

namespace ClientMessage

/-- The message as a step of a run. -/
def step : ClientMessage → Step
  | request id method params reply => .request id method params reply
  | notify method params => .notify method params

/-- The name of the method that a message calls. -/
def method : ClientMessage → String
  | request _ method _ _ => method
  | notify method _ => method

/-- What the server makes of the message. -/
def run (m : ClientMessage) (s : Server) : Outcome StepAnswer :=
  m.step.act.run s

/-- The notification that the message stands for, if it is accepted : it was sent as a notification
with parameters that decode, while the gate is at work. -/
def accepted? (s : Server) : ClientMessage → Option Notice
  | request _ _ _ _ => none
  | notify method params =>
    if s.gate = .initialized then do
      let m ← NoticeMethod.names.lookup method
      (present m.decode params).toOption
    else none

end ClientMessage

/-- A message in a run finds the server that those before it left, and leaves
it to those after it. -/
theorem serverAfter_message (s : Server) (before : List ClientMessage) (m : ClientMessage)
    (after : List ClientMessage) :
    serverAfter s ((before ++ m :: after).map ClientMessage.step) =
      serverAfter (m.run (serverAfter s (before.map ClientMessage.step))).server
        (after.map ClientMessage.step) := by
  rw [List.map_append, serverAfter_append]
  rfl

/-- The gate at which a request may be made. -/
def RequestMethod.gate : RequestMethod → Gate
  | start => .uninitialized
  | _ => .initialized

/-- The gate while a request is served: shutdown closes it at once. -/
def RequestMethod.gateAfter : RequestMethod → Gate
  | start => .uninitialized
  | shutdown => .shutDown
  | _ => .initialized

/-- The method of a request. -/
def Request.method : Request → RequestMethod
  | start _ => .start
  | shutdown => .shutdown
  | completion _ => .completion
  | resolve _ => .resolve
  | codeAction _ => .codeAction
  | execute _ => .execute

/-- The request that the message stands for, if it is served : it was sent as a request with
parameters that decode, while the gate lets its method through. -/
def ClientMessage.served? (s : Server) : ClientMessage → Option Request
  | request _ method params _ => do
    let m ← RequestMethod.names.lookup method
    if s.gate = m.gate then (m.read params).toOption else none
  | notify _ _ => none

/-- Serve a request that the gate has let through. -/
def Request.serve (r : Request) (id : RequestId) (reply : ClientReply) : Act StepAnswer := do
  update fun s => { s with gate := r.method.gateAfter }
  let p ← r.act
  openGate r p
  return .reply id (← p.finish reply)

/-- How the gate moves when a message is turned away : not at all, or to the end of the connection,
or by a shutdown that is turned away only after it closed the gate. -/
def Gate.Closes (g next : Gate) : Prop :=
  next = g ∨ next = .exited ∨ g = .initialized ∧ next = .shutDown

/-! ## Names and methods -/

/-- Neither a request nor a notification that the server serves. -/
def Method.IsUnserved : Method → Prop
  | request _ => False
  | notice _ => False
  | _ => True

theorem mem_of_lookup {α : Type} {name : String} {a : α} {entries : List (String × α)}
    (h : entries.lookup name = some a) : (name, a) ∈ entries := by
  obtain ⟨before, after, rfl, -⟩ := List.lookup_eq_some_iff.mp h
  simp

theorem isUnserved_of_mem_otherNames {name : String} {m : Method}
    (h : (name, m) ∈ Method.otherNames) : m.IsUnserved := by
  simp only [Method.otherNames, List.mem_append, List.mem_cons, Prod.mk.injEq, List.not_mem_nil,
    or_false, List.mem_map] at h
  rcases h with ((⟨-, rfl⟩ | ⟨-, rfl⟩) | ⟨r, -, -, rfl⟩) | ⟨n, -, -, rfl⟩ <;> trivial

/-- A name is that of a request, that of a notification, or neither. -/
theorem ofName?_cases (name : String) :
    (∃ m, RequestMethod.names.lookup name = some m ∧ NoticeMethod.names.lookup name = none ∧
      Method.ofName? name = some (.request m)) ∨
    (∃ m, RequestMethod.names.lookup name = none ∧ NoticeMethod.names.lookup name = some m ∧
      Method.ofName? name = some (.notice m)) ∨
    (RequestMethod.names.lookup name = none ∧ NoticeMethod.names.lookup name = none ∧
      ∀ m, Method.ofName? name = some m → m.IsUnserved) := by
  have hdisjoint : ∀ e ∈ RequestMethod.names, NoticeMethod.names.lookup e.1 = none := by decide
  cases hr : RequestMethod.names.lookup name with
  | some m => exact Or.inl ⟨m, rfl, hdisjoint _ (mem_of_lookup hr), by simp [Method.ofName?, hr]⟩
  | none =>
    cases hn : NoticeMethod.names.lookup name with
    | some m => exact Or.inr (Or.inl ⟨m, rfl, rfl, by simp [Method.ofName?, hr, hn]⟩)
    | none =>
      refine Or.inr (Or.inr ⟨rfl, rfl, fun m hm => ?_⟩)
      simp only [Method.ofName?, hr, hn, Option.map_none, Option.orElse_none] at hm
      exact isUnserved_of_mem_otherNames (mem_of_lookup hm)

/-- A request has one name. -/
theorem RequestMethod.name_eq_iff {name other : String} {m n : RequestMethod}
    (hm : names.lookup name = some m) (hn : names.lookup other = some n) :
    name = other ↔ m = n := by
  have hinj : ∀ e ∈ names, ∀ e' ∈ names, e.2 = e'.2 → e.1 = e'.1 := by decide
  constructor
  · rintro rfl
    exact Option.some.inj (hm.symm.trans hn)
  · intro h
    exact hinj _ (mem_of_lookup hm) _ (mem_of_lookup hn) h

theorem present_of_ok {α : Type} {decode : Decoder α} {v : Json} {a : α} (h : decode v = .ok a) :
    present decode (some v) = .ok a := by
  rw [present, h]
  rfl

theorem present_of_error {α : Type} {decode : Decoder α} {v : Json} {e : DecodeError}
    (h : decode v = .error e) : present decode (some v) = .error (.invalidParams e.message) := by
  rw [present, h]
  rfl

theorem present_eq_ok_iff {α : Type} {decode : Decoder α} {params : Option Json} {a : α} :
    present decode params = .ok a ↔ ∃ v, params = some v ∧ decode v = .ok a := by
  cases params with
  | none => simp [present]
  | some v =>
    cases h : decode v with
    | error e => simp [present_of_error h, h]
    | ok b => simp [present_of_ok h, h]

theorem method_of_decode {m : RequestMethod} {v : Json} {r : Request} (h : m.decode v = .ok r) :
    r.method = m := by
  cases m with
  | shutdown => cases h; rfl
  | _ =>
    obtain ⟨a, -, rfl⟩ := Decode.exists_of_map_eq_ok h
    rfl

/-- The parameters of a method make a request of that method. -/
theorem method_of_read {m : RequestMethod} {params : Option Json} {r : Request}
    (h : m.read params = .ok r) : r.method = m := by
  cases m with
  | shutdown =>
    cases params with
    | none => cases h; rfl
    | some v => cases h
  | _ =>
    obtain ⟨v, -, hv⟩ := present_eq_ok_iff.mp h
    exact method_of_decode hv

/-! ## What a message can do -/

theorem closes_of_enter {g next : Gate} {m : Method} (h : g.enter m = .ok next) :
    g.Closes next := by
  unfold Gate.enter at h
  split at h
  · exact Or.inr (Or.inl (Except.ok.inj h).symm)
  · exact Or.inl (Except.ok.inj h).symm
  · split at h
    · next hg => exact Or.inl ((Except.ok.inj h).symm.trans hg.symm)
    · cases h
  · split at h
    · next hg => exact Or.inr (Or.inr ⟨hg, (Except.ok.inj h).symm⟩)
    · cases h
  · split at h
    · next hg => exact Or.inl ((Except.ok.inj h).symm.trans hg.symm)
    · cases h

/-- A request passes the gate only where its method may be called. -/
theorem enter_request {g next : Gate} {m : RequestMethod} (h : g.enter (.request m) = .ok next) :
    g = m.gate ∧ next = m.gateAfter := by
  cases m <;> simp only [Gate.enter] at h <;> split at h <;>
    simp_all [RequestMethod.gate, RequestMethod.gateAfter]

theorem enter_of_gate (m : RequestMethod) : m.gate.enter (.request m) = .ok m.gateAfter := by
  cases m <;> rfl

theorem toOption_eq_some_iff {ε α : Type} {x : Except ε α} {a : α} :
    x.toOption = some a ↔ x = .ok a := by
  cases x <;> simp [Except.toOption]

theorem run_of_exited (m : ClientMessage) {s : Server} (h : s.gate = .exited) :
    m.run s = ⟨.exited, s, [], []⟩ := by
  cases m <;> simp [ClientMessage.run, ClientMessage.step, Step.act, h]

/-- The reply to a request, if there is one. -/
def StepAnswer.ofAnswer? (id : RequestId) : Option Answer → StepAnswer
  | none => .silent
  | some answer => .reply id answer

/-- A notification whose task is finished at once does nothing but what it does to the gate. -/
theorem run_notify_of_finish {s : Server} (h : s.gate ≠ .exited) {name : String}
    {params : Option Json} {answer : Option Answer}
    (ht : (s.gate.admitNotice name params).task = .finish answer) :
    (ClientMessage.notify name params).run s =
      ⟨.silent, { s with gate := (s.gate.admitNotice name params).gate }, [], []⟩ := by
  simp [ClientMessage.run, ClientMessage.step, Step.act, dispatchNotice, ht, Task.run]

/-- A notification with a task to carry out. -/
theorem run_notify_of_notice {s : Server} (h : s.gate ≠ .exited) {name : String}
    {params : Option Json} {n : Notice} (hg : (s.gate.admitNotice name params).gate = s.gate)
    (ht : (s.gate.admitNotice name params).task = .notice n) :
    (ClientMessage.notify name params).run s =
      ⟨.silent, (n.act.run s).server, (n.act.run s).sent, (n.act.run s).log⟩ := by
  simp [ClientMessage.run, ClientMessage.step, Step.act, dispatchNotice, hg, ht, Task.run]

/-- A request whose task is finished at once does nothing but what it does to the gate. -/
theorem run_request_of_finish {s : Server} (h : s.gate ≠ .exited) (id : RequestId) {name : String}
    {params : Option Json} (reply : ClientReply) {answer : Option Answer}
    (ht : (s.gate.admitRequest name params).task = .finish answer) :
    (ClientMessage.request id name params reply).run s =
      ⟨.ofAnswer? id answer, { s with gate := (s.gate.admitRequest name params).gate }, [],
        []⟩ := by
  cases answer <;> simp [ClientMessage.run, ClientMessage.step, Step.act, answerRequest,
    dispatchRequest, ht, Task.run, Progress.finish, StepAnswer.ofAnswer?]

/-- A request with a task is served. -/
theorem run_request_of_request {s : Server} (h : s.gate ≠ .exited) (id : RequestId) {name : String}
    {params : Option Json} (reply : ClientReply) {r : Request}
    (hg : (s.gate.admitRequest name params).gate = r.method.gateAfter)
    (ht : (s.gate.admitRequest name params).task = .request r) :
    (ClientMessage.request id name params reply).run s = (r.serve id reply).run s := by
  simp [ClientMessage.run, ClientMessage.step, Step.act, answerRequest, dispatchRequest, hg, ht,
    Task.run, Request.serve]

/-- The errors with which a request is turned away before the server looks at it. -/
inductive GateError : RpcError → Prop where
  | notInitialized : GateError .notInitialized
  | invalidRequest : GateError .invalidRequest
  | methodNotFound : GateError .methodNotFound
  | unknownMethod (name : String) : GateError (unknownMethod name)
  | invalidParams (message : String) : GateError (.invalidParams message)

theorem gateError_closedError (g : Gate) : GateError g.closedError := by
  cases g <;> constructor

theorem gateError_of_enter {g : Gate} {m : Method} {e : RpcError} (h : g.enter m = .error e) :
    GateError e := by
  unfold Gate.enter at h
  split at h
  · cases h
  · cases h
  · split at h <;> cases h
    exact .invalidRequest
  · split at h <;> cases h
    exact gateError_closedError g
  · split at h <;> cases h
    exact gateError_closedError g

theorem gateError_of_present {α : Type} {decode : Decoder α} {params : Option Json} {e : RpcError}
    (h : present decode params = .error e) : GateError e := by
  cases params with
  | none => cases h; exact .invalidParams _
  | some v =>
    cases hv : decode v with
    | error d =>
      rw [present_of_error hv, Except.error.injEq] at h
      exact h ▸ .invalidParams _
    | ok a =>
      rw [present_of_ok hv] at h
      cases h

theorem gateError_of_read {m : RequestMethod} {params : Option Json} {e : RpcError}
    (h : m.read params = .error e) : GateError e := by
  cases m with
  | shutdown =>
    cases params with
    | none => cases h
    | some v => cases h; exact .invalidParams _
  | _ => exact gateError_of_present h

/-- A method that does not make a request to serve is answered with an error, or not at all. -/
theorem requestTask_of_not_request {m : Method} {params : Option Json}
    (h : ∀ r, m.requestTask params ≠ .request r) :
    ∃ answer, m.requestTask params = .finish answer ∧
      ∀ a ∈ answer, ∃ e, a = .error e ∧ GateError e := by
  cases m with
  | request m =>
    cases hr : m.read params with
    | error e =>
      exact ⟨some (.error e), by simp [Method.requestTask, hr], by simpa using gateError_of_read hr⟩
    | ok r => exact absurd (by simp [Method.requestTask, hr]) (h r)
  | notice m => exact ⟨_, rfl, by simpa using GateError.invalidRequest⟩
  | unservedNotice => exact ⟨_, rfl, by simpa using GateError.invalidRequest⟩
  | cancel => exact ⟨_, rfl, by simpa using GateError.invalidRequest⟩
  | exit => exact ⟨none, rfl, by simp⟩
  | unservedRequest decode =>
    cases hp : present decode params with
    | error e =>
      exact ⟨some (.error e), by simp [Method.requestTask, hp],
        by simpa using gateError_of_present hp⟩
    | ok u =>
      exact ⟨some (.error .methodNotFound), by simp [Method.requestTask, hp],
        by simpa using GateError.methodNotFound⟩

/-- What it takes for a request to be served. -/
theorem served?_request_eq_some_iff {s : Server} {id : RequestId} {name : String}
    {params : Option Json} {reply : ClientReply} {r : Request} :
    (ClientMessage.request id name params reply).served? s = some r ↔
      ∃ m, RequestMethod.names.lookup name = some m ∧ s.gate = m.gate ∧ m.read params = .ok r := by
  simp only [ClientMessage.served?, Option.bind_eq_bind, Option.bind_eq_some_iff]
  refine exists_congr fun m => and_congr Iff.rfl ?_
  split
  · next hg => simp [hg, toOption_eq_some_iff]
  · next hg => simp [hg]

/-- A request is served if its gate is open and its parameters decode. -/
theorem served?_of_decode {s : Server} {id : RequestId} {name : String} {v : Json}
    {reply : ClientReply} {m : RequestMethod} {r : Request}
    (hname : RequestMethod.names.lookup name = some m) (hm : m ≠ .shutdown) (hg : s.gate = m.gate)
    (hv : m.decode v = .ok r) :
    (ClientMessage.request id name (some v) reply).served? s = some r := by
  refine served?_request_eq_some_iff.mpr ⟨m, hname, hg, ?_⟩
  cases m with
  | shutdown => exact absurd rfl hm
  | _ => exact present_of_ok hv

theorem gate_ne_exited (m : RequestMethod) : m.gate ≠ .exited := by
  cases m <;> decide

theorem run_request_of_served {s : Server} {id : RequestId} {name : String} {params : Option Json}
    {reply : ClientReply} {r : Request}
    (h : (ClientMessage.request id name params reply).served? s = some r) :
    (ClientMessage.request id name params reply).run s = (r.serve id reply).run s := by
  obtain ⟨m, hm, hg, hr⟩ := served?_request_eq_some_iff.mp h
  have hname : Method.ofName? name = some (.request m) := by
    rcases ofName?_cases name with ⟨m', h', -, hof⟩ | ⟨m', h', -⟩ | ⟨h', -⟩
    · cases hm.symm.trans h'
      exact hof
    · cases hm.symm.trans h'
    · cases hm.symm.trans h'
  have hmethod := method_of_read hr
  apply run_request_of_request (hg ▸ gate_ne_exited m)
  · simp [Gate.admitRequest, hname, hg, enter_of_gate, hmethod]
  · simp [Gate.admitRequest, hname, hg, enter_of_gate, Method.requestTask, hr]

/-- How a message that is turned away is answered. -/
def StepAnswer.IsTurnedAway (a : StepAnswer) : Prop :=
  a = .silent ∨ a = .exited ∨ ∃ id e, GateError e ∧ a = .reply id (.error e)

theorem isTurnedAway_ofAnswer? (id : RequestId) {answer : Option Answer}
    (h : ∀ a ∈ answer, ∃ e, a = .error e ∧ GateError e) :
    (StepAnswer.ofAnswer? id answer).IsTurnedAway := by
  cases answer with
  | none => exact Or.inl rfl
  | some a =>
    obtain ⟨e, rfl, he⟩ := h a rfl
    exact Or.inr (Or.inr ⟨id, e, he, rfl⟩)

theorem requestTask_eq_request {m : Method} {params : Option Json} {r : Request}
    (h : m.requestTask params = .request r) : ∃ m', m = .request m' ∧ m'.read params = .ok r := by
  cases m with
  | request m' =>
    refine ⟨m', rfl, ?_⟩
    cases hr : m'.read params with
    | error e => simp [Method.requestTask, hr] at h
    | ok r' => simpa [Method.requestTask, hr] using h
  | unservedRequest decode =>
    cases hp : present decode params <;> simp [Method.requestTask, hp] at h
  | _ => cases h

theorem lookup_of_ofName?_request {name : String} {m : RequestMethod}
    (h : Method.ofName? name = some (.request m)) : RequestMethod.names.lookup name = some m := by
  rcases ofName?_cases name with ⟨m', h', -, hof⟩ | ⟨m', -, -, hof⟩ | ⟨-, -, hof⟩
  · cases h.symm.trans hof
    exact h'
  · cases h.symm.trans hof
  · exact (hof _ h).elim

/-- Looking at a request that is not served finishes it, and at most the gate closes. -/
theorem admitRequest_of_not_served {g : Gate} {name : String} {params : Option Json}
    (h : ∀ m r, RequestMethod.names.lookup name = some m → g = m.gate → m.read params ≠ .ok r) :
    g.Closes (g.admitRequest name params).gate ∧
      ∃ answer, (g.admitRequest name params).task = .finish answer ∧
      ∀ a ∈ answer, ∃ e, a = .error e ∧ GateError e := by
  unfold Gate.admitRequest
  split
  · refine ⟨Or.inl rfl, _, rfl, fun a ha => ?_⟩
    split at ha <;> cases ha
    exact ⟨_, rfl, .unknownMethod name⟩
  · next m hname =>
    split
    · next e he => exact ⟨Or.inl rfl, _, rfl, by simpa using gateError_of_enter he⟩
    · next next hnext =>
      refine ⟨closes_of_enter hnext, requestTask_of_not_request fun r hr => ?_⟩
      obtain ⟨m', rfl, hread⟩ := requestTask_eq_request hr
      exact h m' r (lookup_of_ofName?_request hname) (enter_request hnext).1 hread

theorem run_request_of_not_served {s : Server} {id : RequestId} {name : String}
    {params : Option Json} {reply : ClientReply}
    (h : (ClientMessage.request id name params reply).served? s = none) :
    ∃ a g, a.IsTurnedAway ∧ s.gate.Closes g ∧
      (ClientMessage.request id name params reply).run s = ⟨a, { s with gate := g }, [], []⟩ := by
  by_cases hg : s.gate = .exited
  · exact ⟨.exited, s.gate, Or.inr (Or.inl rfl), Or.inl rfl, run_of_exited _ hg⟩
  · have hserved : ∀ m r, RequestMethod.names.lookup name = some m → s.gate = m.gate →
        m.read params ≠ .ok r := by
      intro m r hm hgate hr
      rw [served?_request_eq_some_iff.mpr ⟨m, hm, hgate, hr⟩] at h
      cases h
    obtain ⟨hcloses, answer, htask, hanswer⟩ := admitRequest_of_not_served hserved
    exact ⟨_, _, isTurnedAway_ofAnswer? id hanswer, hcloses,
      run_request_of_finish hg id reply htask⟩

/-! ## Notifications -/

/-- What it takes for a notification to be accepted. -/
theorem accepted?_notify_eq_some_iff {s : Server} {name : String} {params : Option Json}
    {n : Notice} :
    (ClientMessage.notify name params).accepted? s = some n ↔
      s.gate = .initialized ∧ ∃ m, NoticeMethod.names.lookup name = some m ∧
        present m.decode params = .ok n := by
  simp only [ClientMessage.accepted?]
  split
  · next hg => simp [hg, Option.bind_eq_some_iff, toOption_eq_some_iff]
  · next hg => simp [hg]

theorem ofName?_notice_iff {name : String} {m : NoticeMethod} :
    Method.ofName? name = some (.notice m) ↔ NoticeMethod.names.lookup name = some m := by
  rcases ofName?_cases name with ⟨m', -, h', hof⟩ | ⟨m', -, h', hof⟩ | ⟨-, h', hof⟩
  · simp [h', hof]
  · simp [h', hof]
  · simp only [h', reduceCtorEq, iff_false]
    exact fun h => hof _ h

/-- An accepted notification is carried out, and nothing else happens. -/
theorem run_notify_of_accepted {s : Server} {name : String} {params : Option Json} {n : Notice}
    (h : (ClientMessage.notify name params).accepted? s = some n) :
    (ClientMessage.notify name params).run s =
      ⟨.silent, (n.act.run s).server, (n.act.run s).sent, (n.act.run s).log⟩ := by
  obtain ⟨hg, m, hm, hn⟩ := accepted?_notify_eq_some_iff.mp h
  have hname := ofName?_notice_iff.mpr hm
  apply run_notify_of_notice (by simp [hg])
  · simp [Gate.admitNotice, hname, hg, Gate.enter]
  · simp [Gate.admitNotice, hname, hg, Gate.enter, Method.noticeTask, hn]

theorem noticeTask_eq_finish {m : Method} {params : Option Json}
    (h : ∀ m' n, m = .notice m' → present m'.decode params ≠ .ok n) :
    m.noticeTask params = .finish none := by
  cases m with
  | notice m' =>
    cases hn : present m'.decode params with
    | error e => simp [Method.noticeTask, hn]
    | ok n => exact absurd hn (h m' n rfl)
  | _ => rfl

/-- Looking at a notification that is not accepted finishes it, and at most the gate closes. -/
theorem admitNotice_of_not_accepted {g : Gate} {name : String} {params : Option Json}
    (h : ∀ m n, g = .initialized → NoticeMethod.names.lookup name = some m →
      present m.decode params ≠ .ok n) :
    g.Closes (g.admitNotice name params).gate ∧
      (g.admitNotice name params).task = .finish none := by
  unfold Gate.admitNotice
  split
  · exact ⟨Or.inl rfl, rfl⟩
  · next m hname =>
    split
    · exact ⟨Or.inl rfl, rfl⟩
    · next next hnext =>
      refine ⟨closes_of_enter hnext, noticeTask_eq_finish fun m' n hm => ?_⟩
      subst hm
      refine h m' n ?_ (ofName?_notice_iff.mp hname)
      refine Decidable.byContradiction fun hg => ?_
      simp [Gate.enter, hg] at hnext

/-- A notification that is not accepted is dropped. -/
theorem run_notify_of_not_accepted {s : Server} {name : String} {params : Option Json}
    (h : (ClientMessage.notify name params).accepted? s = none) :
    ∃ a g, a.IsTurnedAway ∧ s.gate.Closes g ∧
      (ClientMessage.notify name params).run s = ⟨a, { s with gate := g }, [], []⟩ := by
  by_cases hg : s.gate = .exited
  · exact ⟨.exited, s.gate, Or.inr (Or.inl rfl), Or.inl rfl, run_of_exited _ hg⟩
  · have haccepted : ∀ m n, s.gate = .initialized → NoticeMethod.names.lookup name = some m →
        present m.decode params ≠ .ok n := by
      intro m n hgate hm hn
      rw [accepted?_notify_eq_some_iff.mpr ⟨hgate, m, hm, hn⟩] at h
      cases h
    obtain ⟨hcloses, htask⟩ := admitNotice_of_not_accepted haccepted
    exact ⟨.silent, _, Or.inl rfl, hcloses, run_notify_of_finish hg htask⟩

/-! ## The three cases -/

/-- The server makes one of three things of a message : it serves it as a request, carries it out as
a notification, or turns it away. -/
theorem ClientMessage.run_cases (m : ClientMessage) (s : Server) :
    (∃ id name params reply r, m = .request id name params reply ∧ m.served? s = some r ∧
      m.accepted? s = none ∧
      s.gate = r.method.gate ∧ m.run s = (r.serve id reply).run s) ∨
    (∃ n, m.served? s = none ∧ m.accepted? s = some n ∧ s.gate = .initialized ∧
      m.run s = ⟨.silent, (n.act.run s).server, (n.act.run s).sent, (n.act.run s).log⟩) ∨
    (∃ a g, m.served? s = none ∧ m.accepted? s = none ∧ a.IsTurnedAway ∧ s.gate.Closes g ∧
      m.run s = ⟨a, { s with gate := g }, [], []⟩) := by
  cases m with
  | request id name params reply =>
    cases h : (request id name params reply).served? s with
    | some r =>
      obtain ⟨method, -, hg, hr⟩ := served?_request_eq_some_iff.mp h
      refine Or.inl ⟨id, name, params, reply, r, rfl, rfl, rfl, ?_, run_request_of_served h⟩
      rw [method_of_read hr, hg]
    | none =>
      obtain ⟨a, g, ha, hg, hrun⟩ := run_request_of_not_served h
      exact Or.inr (Or.inr ⟨a, g, rfl, rfl, ha, hg, hrun⟩)
  | notify name params =>
    cases h : (notify name params).accepted? s with
    | some n =>
      exact Or.inr (Or.inl ⟨n, rfl, rfl, (accepted?_notify_eq_some_iff.mp h).1,
        run_notify_of_accepted h⟩)
    | none =>
      obtain ⟨a, g, ha, hg, hrun⟩ := run_notify_of_not_accepted h
      exact Or.inr (Or.inr ⟨a, g, rfl, rfl, ha, hg, hrun⟩)

/-! ## Messages that are turned away -/

/-- The gate after a message, as far as its method moves it. -/
def ClientMessage.gateAfter (g : Gate) (m : ClientMessage) : Gate :=
  ((Method.ofName? m.method).bind fun method => (g.enter method).toOption).getD g

theorem gate_admitRequest (g : Gate) (id : RequestId) (name : String) (params : Option Json)
    (reply : ClientReply) :
    (g.admitRequest name params).gate =
      (ClientMessage.request id name params reply).gateAfter g := by
  unfold Gate.admitRequest ClientMessage.gateAfter ClientMessage.method
  cases hname : Method.ofName? name with
  | none => rfl
  | some m => cases henter : g.enter m <;> simp [henter, Except.toOption]

theorem gate_admitNotice (g : Gate) (name : String) (params : Option Json) :
    (g.admitNotice name params).gate = (ClientMessage.notify name params).gateAfter g := by
  unfold Gate.admitNotice ClientMessage.gateAfter ClientMessage.method
  cases hname : Method.ofName? name with
  | none => rfl
  | some m => cases henter : g.enter m <;> simp [henter, Except.toOption]

theorem name_eq_exit {name : String} (h : Method.ofName? name = some .exit) : name = "exit" := by
  have hnone : RequestMethod.names.lookup name = none ∧ NoticeMethod.names.lookup name = none := by
    rcases ofName?_cases name with ⟨m, -, -, hm⟩ | ⟨m, -, -, hm⟩ | ⟨hr, hn, -⟩
    · cases h.symm.trans hm
    · cases h.symm.trans hm
    · exact ⟨hr, hn⟩
  simp only [Method.ofName?, hnone, Option.map_none, Option.orElse_none] at h
  simpa [Method.otherNames] using mem_of_lookup h

/-- Only shutdown and the end of the connection move the gate. -/
theorem enter_eq_self {g next : Gate} {m : Method} (h : g.enter m = .ok next) (hexit : m ≠ .exit)
    (hshutdown : m ≠ .request .shutdown) : next = g := by
  unfold Gate.enter at h
  split at h
  · exact absurd rfl hexit
  · exact (Except.ok.inj h).symm
  · split at h
    · next hg => exact (Except.ok.inj h).symm.trans hg.symm
    · cases h
  · exact absurd rfl hshutdown
  · split at h
    · next hg => exact (Except.ok.inj h).symm.trans hg.symm
    · cases h

/-- Only the end of the connection and a shutdown at work move the gate. -/
theorem gateAfter_eq (g : Gate) (m : ClientMessage) :
    m.gateAfter g =
      if m.method = "exit" then .exited
      else if m.method = "shutdown" ∧ g = .initialized then .shutDown
      else g := by
  unfold ClientMessage.gateAfter
  generalize m.method = name
  by_cases hexit : name = "exit"
  · have hname : Method.ofName? name = some .exit := by rw [hexit]; rfl
    rw [if_pos hexit, hname]
    rfl
  rw [if_neg hexit]
  by_cases hshutdown : name = "shutdown"
  · have hname : Method.ofName? name = some (.request .shutdown) := by rw [hshutdown]; rfl
    rw [hname]
    by_cases hg : g = .initialized <;> simp [Gate.enter, hshutdown, hg, Except.toOption]
  rw [if_neg fun h => hshutdown h.1]
  cases hname : Method.ofName? name with
  | none => rfl
  | some method =>
    have hne : method ≠ .exit ∧ method ≠ .request .shutdown := by
      constructor
      · rintro rfl
        exact hexit (name_eq_exit hname)
      · rintro rfl
        exact hshutdown ((RequestMethod.name_eq_iff (lookup_of_ofName?_request hname) rfl).mpr rfl)
    cases henter : g.enter method with
    | error e => simp [henter, Except.toOption]
    | ok next => simpa [henter, Except.toOption] using enter_eq_self henter hne.1 hne.2

theorem gateAfter_exited (m : ClientMessage) : m.gateAfter .exited = .exited := by
  rw [gateAfter_eq]
  split <;> simp

/-- A message that is turned away does nothing but what its method does to the gate. -/
theorem run_of_turned_away {s : Server} {m : ClientMessage} (hr : m.served? s = none)
    (hn : m.accepted? s = none) :
    (m.run s).server = { s with gate := m.gateAfter s.gate } ∧ (m.run s).sent = [] := by
  by_cases hg : s.gate = .exited
  · rw [run_of_exited m hg, hg, gateAfter_exited, ← hg]
    exact ⟨rfl, rfl⟩
  · cases m with
    | request id name params reply =>
      have hserved : ∀ m r, RequestMethod.names.lookup name = some m → s.gate = m.gate →
          m.read params ≠ .ok r := by
        intro m r hm hgate hread
        rw [served?_request_eq_some_iff.mpr ⟨m, hm, hgate, hread⟩] at hr
        cases hr
      obtain ⟨-, answer, htask, -⟩ := admitRequest_of_not_served hserved
      rw [run_request_of_finish hg id reply htask, gate_admitRequest s.gate id name params reply]
      exact ⟨rfl, rfl⟩
    | notify name params =>
      have haccepted : ∀ m n, s.gate = .initialized → NoticeMethod.names.lookup name = some m →
          present m.decode params ≠ .ok n := by
        intro m n hgate hm hdecode
        rw [accepted?_notify_eq_some_iff.mpr ⟨hgate, m, hm, hdecode⟩] at hn
        cases hn
      obtain ⟨-, htask⟩ := admitNotice_of_not_accepted haccepted
      rw [run_notify_of_finish hg htask, gate_admitNotice]
      exact ⟨rfl, rfl⟩

end Majuscule
