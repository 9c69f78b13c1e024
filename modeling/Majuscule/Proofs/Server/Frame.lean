import Majuscule.Server.Handler

/-!
# What acts leave alone

An act changes the server, sends and logs. `Keeps f x` says that the act `x` leaves the part `f` of
the server as it is, and `LogsOnly p x` that everything it logs satisfies `p`. Both hold of acts one
after another if they hold of each, so a frame statement about a handler is put together from those
about the acts it is made of.

The handlers of notifications keep gate and session (`Notice.keeps_stage`). Those that do work only
while the session is at work are that work then (`run_whileAtWork`, `run_ifAtWork`) and else nothing
but a warning or a refusal.
-/

namespace Majuscule

namespace Act

variable {α β γ : Type}

/-- The act leaves a part of the server as it is. -/
def Keeps (f : Server → γ) (x : Act α) : Prop :=
  ∀ s, f (x.run s).server = f s

/-- Everything that the act logs satisfies `p`. -/
def LogsOnly (p : LogEvent → Prop) (x : Act α) : Prop :=
  ∀ s, ∀ e ∈ (x.run s).log, p e

theorem Keeps.bind {f : Server → γ} {x : Act α} {g : α → Act β} (hx : Keeps f x)
    (hg : ∀ a, Keeps f (g a)) : Keeps f (x >>= g) := by
  intro s
  rw [run_bind]
  exact (hg _ _).trans (hx s)

theorem keeps_pure (f : Server → γ) (a : α) : Keeps f (Pure.pure a : Act α) := fun _ => rfl

theorem keeps_current (f : Server → γ) : Keeps f current := fun _ => rfl

theorem keeps_note (f : Server → γ) (e : LogEvent) : Keeps f (note e) := fun _ => rfl

theorem keeps_noteAll (f : Server → γ) (es : List LogEvent) : Keeps f (noteAll es) := fun _ => rfl

theorem keeps_send (f : Server → γ) (m : Outbound) : Keeps f (send m) := fun _ => rfl

theorem LogsOnly.bind {p : LogEvent → Prop} {x : Act α} {g : α → Act β} (hx : LogsOnly p x)
    (hg : ∀ a, LogsOnly p (g a)) : LogsOnly p (x >>= g) := by
  intro s e he
  rw [run_bind] at he
  rcases List.mem_append.mp he with he | he
  · exact hx s e he
  · exact hg _ _ e he

theorem logsOnly_pure (p : LogEvent → Prop) (a : α) : LogsOnly p (Pure.pure a : Act α) := by
  intro s e he
  cases he

theorem logsOnly_current (p : LogEvent → Prop) : LogsOnly p current := by
  intro s e he
  cases he

theorem logsOnly_update (p : LogEvent → Prop) (f : Server → Server) : LogsOnly p (update f) := by
  intro s e he
  cases he

theorem logsOnly_send (p : LogEvent → Prop) (m : Outbound) : LogsOnly p (send m) := by
  intro s e he
  cases he

theorem logsOnly_noteAll {p : LogEvent → Prop} {es : List LogEvent} (h : ∀ e ∈ es, p e) :
    LogsOnly p (noteAll es) :=
  fun _ => h

theorem logsOnly_note {p : LogEvent → Prop} {e : LogEvent} (h : p e) : LogsOnly p (note e) :=
  logsOnly_noteAll (by simpa using h)

theorem run_proposeEdit_of_open {s : Server} (h : s.gate.isOpen = true) (label : String)
    (edit : WorkspaceEdit) :
    (proposeEdit label edit).run s =
      ⟨some s.nextRequest, { s with nextRequest := s.nextRequest + 1 },
        [.applyEdit s.nextRequest label edit], []⟩ :=
  if_pos h

theorem run_proposeEdit_of_closed {s : Server} (h : s.gate.isOpen = false) (label : String)
    (edit : WorkspaceEdit) : (proposeEdit label edit).run s = ⟨none, s, [], []⟩ :=
  if_neg (by simp [h])

@[simp] theorem run_callSession (c : Session.Call) (s : Server) :
    (callSession c).run s =
      ⟨(s.session.call c).result, { s with session := (s.session.call c).session }, [],
        (s.session.call c).log⟩ := rfl

end Act

open Act

/-! ## Guards -/

/-- While the session is at work, a guarded notification is its work. -/
theorem run_whileAtWork {s : Server} (h : s.session = .initialized) (notification : String)
    (work : Act Unit) : (whileAtWork notification work).run s = work.run s := by
  simp [whileAtWork, h, Session.ensure]

/-- While the session is at work, a guarded request is its work. -/
theorem run_ifAtWork {s : Server} (h : s.session = .initialized) (work : Act Progress) :
    (ifAtWork work).run s = work.run s := by
  simp [ifAtWork, h, Session.ensure]

/-- A notification that comes while the session is not at work is dropped with a warning. -/
theorem run_whileAtWork_of_refused {s : Server} {cause : Refusal}
    (h : s.session.ensure = .error cause) (notification : String) (work : Act Unit) :
    (whileAtWork notification work).run s = ⟨(), s, [], [.dropped notification cause]⟩ := by
  simp [whileAtWork, h]

/-- A request that comes while the session is not at work is refused. -/
theorem run_ifAtWork_of_refused {s : Server} {cause : Refusal} (h : s.session.ensure = .error cause)
    (work : Act Progress) :
    (ifAtWork work).run s = ⟨.finished (.error cause.toRpcError), s, [], []⟩ := by
  simp [ifAtWork, h]

theorem keeps_whileAtWork {γ : Type} {f : Server → γ} {work : Act Unit} (notification : String)
    (h : Keeps f work) : Keeps f (whileAtWork notification work) := by
  refine (keeps_current f).bind fun s => ?_
  cases s.session.ensure with
  | ok _ => exact h
  | error cause => exact keeps_note f _

theorem keeps_ifAtWork {γ : Type} {f : Server → γ} {work : Act Progress} (h : Keeps f work) :
    Keeps f (ifAtWork work) := by
  refine (keeps_current f).bind fun s => ?_
  cases s.session.ensure with
  | ok _ => exact h
  | error cause => exact keeps_pure f _

/-! ## Notifications keep gate and session -/

/-- How far connection and session have come. -/
def Server.stage (s : Server) : Gate × Session :=
  (s.gate, s.session)

theorem keeps_stage_validate (uri : Url) : Keeps Server.stage (validate uri) := by
  refine (keeps_current _).bind fun s => ?_
  cases s.documents.text? uri with
  | none => exact keeps_note _ _
  | some text =>
    exact (keeps_noteAll _ _).bind fun _ => (keeps_note _ _).bind fun _ => keeps_send _ _

theorem keeps_stage_validateAll (uris : List Url) : Keeps Server.stage (validateAll uris) := by
  induction uris with
  | nil => exact keeps_pure _ _
  | cons uri rest ih => exact (keeps_stage_validate uri).bind fun _ => ih

theorem keeps_stage_putDocuments (f : Server → Documents) :
    Keeps Server.stage (update fun s => { s with documents := f s }) :=
  fun _ => rfl

theorem keeps_stage_applySettings (v : Json) : Keeps Server.stage (applySettings v) := by
  unfold applySettings
  cases Settings.read v with
  | unchanged => exact keeps_pure _ _
  | refused cause => exact (keeps_note _ _).bind fun _ => keeps_pure _ _
  | accepted settings =>
    exact (keeps_note _ _).bind fun _ => Keeps.bind (fun _ => rfl) fun _ => keeps_pure _ _

/-- No notification moves the gate or the session. -/
theorem Notice.keeps_stage (n : Notice) : Keeps Server.stage n.act := by
  cases n with
  | initialized => exact (keeps_note _ _).bind fun _ => keeps_send _ _
  | didOpen params =>
    exact keeps_whileAtWork _ ((keeps_note _ _).bind fun _ =>
      (keeps_stage_putDocuments _).bind fun _ => keeps_stage_validate _)
  | didChange params =>
    refine keeps_whileAtWork _ ((keeps_note _ _).bind fun _ => (keeps_current _).bind fun s => ?_)
    cases s.documents.change? params.uri params.fragments with
    | none => exact keeps_pure _ _
    | some documents => exact (keeps_stage_putDocuments _).bind fun _ => keeps_stage_validate _
  | didSave uri => exact keeps_whileAtWork _ ((keeps_note _ _).bind fun _ => keeps_stage_validate _)
  | didClose uri =>
    exact keeps_whileAtWork _ ((keeps_note _ _).bind fun _ =>
      (keeps_stage_putDocuments _).bind fun _ => keeps_send _ _)
  | didChangeConfiguration settings =>
    refine keeps_whileAtWork _ ((keeps_stage_applySettings _).bind fun applied => ?_)
    cases applied with
    | false => exact keeps_pure _ _
    | true =>
      exact (keeps_send _ _).bind fun _ => (keeps_current _).bind fun s => keeps_stage_validateAll _
  | didChangeWatchedFiles count => exact keeps_note _ _

/-! ## Settings -/

/-- The settings in what a client sends, if they are accepted. -/
def Settings.accepted? (v : Json) : Option Settings :=
  match read v with
  | .accepted settings => some settings
  | _ => none

/-- What the log says about settings that a client sends. -/
def settingsEvents (v : Json) : List LogEvent :=
  match Settings.read v with
  | .unchanged => []
  | .refused cause => [.settingsIgnored cause]
  | .accepted settings => [.settingsUpdated settings]

theorem run_applySettings (v : Json) (s : Server) :
    (applySettings v).run s =
      ⟨(Settings.accepted? v).isSome, { s with settings := (Settings.accepted? v).getD s.settings },
        [], settingsEvents v⟩ := by
  unfold applySettings Settings.accepted? settingsEvents
  cases Settings.read v <;> simp

/-! ## Requests while the session allows them -/

/-- Start-up takes over the settings that come along. -/
theorem run_start {s : Server} (h : s.session = .uninitialized) (params : InitializeParams) :
    (start params).run s =
      ⟨.ok introduction,
        { s with
          session := .initialized
          settings := (params.initializationOptions.bind Settings.accepted?).getD s.settings }, [],
        .transition .uninitialized .initialized ::
          (params.initializationOptions.map settingsEvents).getD []⟩ := by
  cases ho : params.initializationOptions <;>
    simp [start, h, ho, run_applySettings, Session.call, Session.CallOutcome.ofTransition,
      Session.start]

theorem run_shutdown {s : Server} (h : s.session = .initialized) :
    shutdown.run s =
      ⟨.ok .null, { s with session := .shuttingDown }, [],
        [.stopping, .transition .initialized .shuttingDown]⟩ := by
  simp [shutdown, h, Session.call, Session.CallOutcome.ofTransition, Session.shutdown]

/-- A session is started only once. -/
theorem run_start_of_started {s : Server} (h : s.session ≠ .uninitialized)
    (params : InitializeParams) :
    (start params).run s =
      ⟨.error (Refusal.invalidTransition s.session .initialized).toRpcError, s, [],
        [.transitionRefused s.session .initialized]⟩ := by
  simp [start, h, Session.call, Session.CallOutcome.ofTransition, Session.start]

/-- A session is shut down only while it is at work. -/
theorem run_shutdown_of_idle {s : Server} (h : s.session ≠ .initialized) :
    shutdown.run s =
      ⟨.error (Refusal.invalidTransition s.session .shuttingDown).toRpcError, s, [],
        [.stopping, .transitionRefused s.session .shuttingDown]⟩ := by
  simp [shutdown, h, Session.call, Session.CallOutcome.ofTransition, Session.shutdown]

theorem run_complete {s : Server} (h : s.session = .initialized) (place : DocumentPosition) :
    (complete place).run s =
      ⟨.finished (.ok (.arr (Candidate.all.map fun c => c.item.encode))), s, [],
        [.completionAsked place.uri place.position]⟩ := by
  rw [complete, run_ifAtWork h]
  rfl

theorem run_resolveItem {s : Server} (h : s.session = .initialized) (item : CompletionItem) :
    (resolveItem item).run s =
      ⟨.finished (.ok item.resolve.encode), s, [],
        .resolveAsked item.label :: unknownEvents item⟩ := by
  rw [resolveItem, run_ifAtWork h]
  simp

theorem run_offerFixes {s : Server} (h : s.session = .initialized) (params : CodeActionParams) :
    (offerFixes params).run s =
      ⟨.finished (.ok (encodeFixes (QuickFix.offer params.uri params.diagnostics))), s, [],
        [.codeActionAsked params.uri params.range params.diagnostics.length]⟩ := by
  rw [offerFixes, run_ifAtWork h]
  rfl

/-- A command with arguments that cannot be used is refused. -/
theorem run_execute_of_refused {s : Server} (h : s.session = .initialized) {params : ExecuteParams}
    {cause : Refusal} (hp : Command.parse params.command params.arguments = .error cause) :
    (execute params).run s = ⟨.finished (.error cause.toRpcError), s, [],
      [.commandAsked params.command]⟩ := by
  rw [execute, run_ifAtWork h]
  simp [hp]

theorem run_execute_of_unknown {s : Server} (h : s.session = .initialized) {params : ExecuteParams}
    (hp : Command.parse params.command params.arguments = .ok none) :
    (execute params).run s =
      ⟨.finished (.ok .null), s, [], [.commandAsked params.command,
        .unknownCommand params.command]⟩ := by
  rw [execute, run_ifAtWork h]
  simp [hp]

/-- The edit of a command that the server has is proposed to the client under the next number. -/
theorem run_execute_of_known {s : Server} (h : s.session = .initialized) (hg : s.gate.isOpen = true)
    {params : ExecuteParams} {c : Command}
    (hp : Command.parse params.command params.arguments = .ok (some c)) :
    (execute params).run s =
      ⟨.awaitingEdit s.nextRequest c, { s with nextRequest := s.nextRequest + 1 },
        [.applyEdit s.nextRequest c.title c.edit], [.commandAsked params.command]⟩ := by
  rw [execute, run_ifAtWork h]
  simp [hp, run_proposeEdit_of_open hg]

/-- Whatever does not depend on the number of the next request is kept by a command. -/
theorem keeps_execute {γ : Type} {f : Server → γ} (hf : ∀ s n, f { s with nextRequest := n } = f s)
    (params : ExecuteParams) : Keeps f (execute params) := by
  refine keeps_ifAtWork ((keeps_note f _).bind fun _ => ?_)
  cases Command.parse params.command params.arguments with
  | error cause => exact keeps_pure f _
  | ok c =>
    cases c with
    | none => exact (keeps_note f _).bind fun _ => keeps_pure f _
    | some command =>
      have hpropose : Keeps f (proposeEdit command.title command.edit) := by
        intro s
        cases hg : s.gate.isOpen with
        | false => rw [run_proposeEdit_of_closed hg]
        | true => rw [run_proposeEdit_of_open hg, hf]
      refine hpropose.bind fun id => ?_
      cases id with
      | none => exact (keeps_note f _).bind fun _ => keeps_pure f _
      | some id => exact keeps_pure f _

end Majuscule
