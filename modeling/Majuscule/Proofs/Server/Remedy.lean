import Majuscule.Proofs.Protocol.Diagnostic
import Majuscule.Proofs.Scan.Spans
import Majuscule.Proofs.Server.Execute
import Majuscule.Proofs.Server.Notice
import Mathlib.Data.List.Forall2

/-!
# From a problem to its edit

A problem goes a long way before its word is replaced. The server publishes it; the client sends it
back to ask for code actions; the server answers with quick fixes, each of which holds a command;
the client sends the command back with its arguments; and the server proposes an edit. This file
follows the values through both round trips on the wire.

A request for code actions is answered with a quick fix for each diagnostic of this server that came
along, in their order (`IsFixFor`). Each of them `Remedies` its diagnostic : whenever the client
sends its command back while the gate is at work, the server proposes one edit, which puts the
replacement in the place of the range of the diagnostic. And since a published problem is read back
as it was written (`decode_encode_shout`), this holds of every published problem at its own index
(`fixes_remedy_diagnostics`).
-/

namespace Majuscule

open Act Decode Record Scan

/-! ## What is on the wire -/

/-- The value is a quick fix for a diagnostic : it has no edit of its own, and just this
diagnostic is attached to it. -/
structure IsFixFor (d : Diagnostic) (action : Json) : Prop where
  kind_eq : action.get? "kind" = some (.str "quickfix")
  edit_eq : action.get? "edit" = none
  diagnostics_eq : action.get? "diagnostics" = some (.arr [d.encode])

/-- The value holds the command of a code action and its arguments, as a client sends them back; a
token that comes along with them can be read. -/
structure SendsBack (action v : Json) : Prop where
  command_eq : v.get? "command" = (action.get? "command").bind (·.get? "command")
  arguments_eq : v.get? "arguments" = (action.get? "command").bind (·.get? "arguments")
  token_readable : ∀ token, v.get? "workDoneToken" = some token →
    ∃ t, nullable NumberOrString.decode token = .ok t

/-- When the client sends the command of an action back, it gets a result, and one message is sent
to it, which asks it under the next number to put `foo` in the place of a range of one document and
to change nothing else. -/
def ProposesEdit (s : Server) (uri : Url) (range : Range) (action : Json) : Prop :=
  ∀ v, SendsBack action v → ∀ id reply, ∃ answer proposal,
    ((ClientMessage.request id "workspace/executeCommand" (some v) reply).run s).value =
      .reply id (.ok answer) ∧
    ((ClientMessage.request id "workspace/executeCommand" (some v) reply).run s).sent = [proposal] ∧
    proposal.AsksToReplace s.nextRequest uri range

/-- The action is a quick fix for a diagnostic, and however the run goes on, it proposes the edit of
its range while the gate is at work. -/
def Remedies (s : Server) (uri : Url) (d : Diagnostic) (action : Json) : Prop :=
  IsFixFor d action ∧ ∀ later : List ClientMessage,
    (serverAfter s (later.map ClientMessage.step)).gate = .initialized →
      ProposesEdit (serverAfter s (later.map ClientMessage.step)) uri d.range action

/-! ## The way to the server -/

/-- The parameters of a command are read back as they were written. -/
theorem decode_execute {v : Json} {command : String} {arguments : List Json}
    (hcommand : v.get? "command" = some (.str command))
    (harguments : v.get? "arguments" = some (.arr arguments))
    (htoken : ∀ token, v.get? "workDoneToken" = some token →
      ∃ t, nullable NumberOrString.decode token = .ok t) :
    ExecuteParams.decode v = .ok ⟨command, arguments⟩ := by
  cases v with
  | obj members =>
    have hname : (required "command" text).ofMembers members = .done command :=
      ofMembers_required hcommand rfl
    have hlist : (defaulted "arguments" [] (list any)).ofMembers members = .done arguments :=
      ofMembers_defaulted_of_lookup harguments (each_any arguments)
    obtain ⟨t, ht⟩ : ∃ t, workDoneToken.ofMembers members = .done t :=
      exists_ofMembers_optional htoken
    simp only [ExecuteParams.decode, decodeObject, Record.read, group, ofMembers_seq, ofMembers_map,
      hname, hlist, ht]
    rfl
  | _ => cases hcommand

/-! ## The way to the edit -/

theorem isFixFor_encode (uri : Url) (d : Diagnostic) :
    IsFixFor d (QuickFix.ofDiagnostic uri d).encode :=
  ⟨rfl, rfl, rfl⟩

/-- While gate and session are at work, the command of a quick fix asks for its edit. -/
theorem proposesEdit_encode {s : Server} (hg : s.gate = .initialized)
    (hs : s.session = .initialized) {uri : Url} (huri : Url.parse uri.text = .ok uri)
    (d : Diagnostic) : ProposesEdit s uri d.range (QuickFix.ofDiagnostic uri d).encode := by
  intro v hv id reply
  let params : ExecuteParams := ⟨Command.lowerCaseId, [uri.encode, d.range.encode]⟩
  have hdecode : ExecuteParams.decode v = .ok params :=
    decode_execute hv.command_eq hv.arguments_eq hv.token_readable
  have htarget : Command.DenotesTarget params.arguments uri d.range :=
    Command.denotesTarget_encode huri d.range
  obtain ⟨proposal, log, hrun, hasks⟩ :=
    exists_run_serve_of_target hg hs params rfl htarget id reply
  rw [run_request_of_served (served?_execute hg hdecode id reply), hrun]
  exact ⟨.null, proposal, rfl, rfl, hasks⟩

/-- The quick fix for a diagnostic remedies it. -/
theorem InStep.remedies {s : Server} (h : InStep s) {uri : Url}
    (huri : Url.parse uri.text = .ok uri) (d : Diagnostic) :
    Remedies s uri d (QuickFix.ofDiagnostic uri d).encode := by
  refine ⟨isFixFor_encode uri d, fun later hg => ?_⟩
  have hs := (h.serverAfter later).of_initialized hg
  exact proposesEdit_encode hg hs huri d

/-! ## What is published -/

/-- The problems of a text are those that the scan reports. -/
theorem exists_shout_of_mem_diagnose {text : String} {d : Diagnostic} (h : d ∈ diagnose text) :
    ∃ line s, d = Shout.diagnostic line s := by
  obtain ⟨i, _, s, -, -, rfl⟩ := mem_diagnoseLines_iff.mp h
  exact ⟨_, s, rfl⟩

theorem exists_shout_of_mem_report {s : Server} {other uri : Url} {ds : List Diagnostic}
    (h : .publish uri ds ∈ s.report other) {d : Diagnostic} (hd : d ∈ ds) :
    ∃ line s, d = Shout.diagnostic line s := by
  obtain ⟨text, -, htext⟩ := List.mem_map.mp h
  cases htext
  exact exists_shout_of_mem_diagnose (List.mem_of_mem_take hd)

/-- A notification publishes nothing but what the scan reports. -/
theorem exists_shout_of_mem_sends {s : Server} {n : Notice} {uri : Url} {ds : List Diagnostic}
    (h : .publish uri ds ∈ n.sends s) {d : Diagnostic} (hd : d ∈ ds) :
    ∃ line s, d = Shout.diagnostic line s := by
  cases n with
  | initialized => simp [Notice.sends] at h
  | didOpen params => exact exists_shout_of_mem_report h hd
  | didChange params =>
    simp only [Notice.sends] at h
    split at h
    · cases h
    · exact exists_shout_of_mem_report h hd
  | didSave other => exact exists_shout_of_mem_report h hd
  | didClose other =>
    simp only [Notice.sends, List.mem_singleton, Outbound.publish.injEq] at h
    simp [h.2] at hd
  | didChangeConfiguration v =>
    simp only [Notice.sends] at h
    split at h
    · simp only [List.mem_cons, reduceCtorEq, false_or] at h
      obtain ⟨other, -, hreport⟩ := List.mem_flatMap.mp h
      exact exists_shout_of_mem_report hreport hd
    · cases h
  | didChangeWatchedFiles count => cases h

/-- Whatever message comes, nothing is published but what the scan reports. -/
theorem InStep.exists_shout_of_mem_sent {s : Server} (h : InStep s) {m : ClientMessage} {uri : Url}
    {ds : List Diagnostic} (hds : .publish uri ds ∈ (m.run s).sent) {d : Diagnostic} (hd : d ∈ ds) :
    ∃ line s, d = Shout.diagnostic line s := by
  rcases m.run_cases s with ⟨id, _, _, reply, r, -, -, -, hg, hrun⟩ | ⟨n, -, -, hg, hrun⟩ |
    ⟨a, g, -, -, -, -, hrun⟩
  · rw [hrun] at hds
    rcases h.serve_cases hg with ⟨params, rfl, hs⟩ | ⟨rfl, hs⟩ | ⟨hne, hgate, hg, hs⟩
    · rw [run_serve_start hs] at hds
      cases hds
    · rw [run_serve_shutdown hs] at hds
      cases hds
    · obtain ⟨_, _, _, _, hserve, -, hedits, -⟩ := run_serve_of_feature hg hs hgate hne id reply
      rw [hserve] at hds
      obtain ⟨_, _, _, hedit⟩ := hedits _ hds
      cases hedit
  · obtain ⟨log, hact⟩ := n.exists_run hg (h.of_initialized hg)
    rw [hrun, hact] at hds
    exact exists_shout_of_mem_sends hds hd
  · rw [hrun] at hds
    cases hds

/-- In a whole run nothing is published but what the scan reports. -/
theorem InStep.exists_shout_of_mem_sentIn {s : Server} (h : InStep s) {ms : List ClientMessage}
    {uri : Url} {ds : List Diagnostic}
    (hds : .publish uri ds ∈ sentIn s (ms.map ClientMessage.step)) {d : Diagnostic} (hd : d ∈ ds) :
    ∃ line s, d = Shout.diagnostic line s := by
  induction ms generalizing s with
  | nil => cases hds
  | cons m ms ih =>
    rcases List.mem_append.mp hds with hds | hds
    · exact h.exists_shout_of_mem_sent hds hd
    · exact ih (h.run m) hds

/-! ## The whole way -/

/-- The diagnostics of this server among some. -/
def ownDiagnostics (ds : List Diagnostic) : List Diagnostic :=
  ds.filter fun d => d.source = some "ex"

theorem ownDiagnostics_of_scan {ds : List Diagnostic}
    (h : ∀ d ∈ ds, ∃ line s, d = Shout.diagnostic line s) : ownDiagnostics ds = ds := by
  refine List.filter_eq_self.mpr fun d hd => ?_
  obtain ⟨line, s, rfl⟩ := h d hd
  rfl

/-- The quick fixes that are sent are those for the diagnostics of this server. -/
theorem encodeFixes_offer (uri : Url) (ds : List Diagnostic) :
    encodeFixes (QuickFix.offer uri ds) =
      if ownDiagnostics ds = [] then .null
      else .arr ((ownDiagnostics ds).map fun d => (QuickFix.ofDiagnostic uri d).encode) := by
  have hoffer : QuickFix.offer uri ds = (ownDiagnostics ds).map (QuickFix.ofDiagnostic uri) := rfl
  rw [hoffer]
  cases ownDiagnostics ds with
  | nil => rfl
  | cons d ds => simp [encodeFixes]

/-- While gate and session are at work, a request for code actions is answered with the quick
fixes, and that is all. -/
theorem run_codeAction {s : Server} (hg : s.gate = .initialized) (hs : s.session = .initialized)
    {v : Json} {params : CodeActionParams} (hv : CodeActionParams.decode v = .ok params)
    (id : RequestId) (reply : ClientReply) :
    ∃ log, (ClientMessage.request id "textDocument/codeAction" (some v) reply).run s =
      ⟨.reply id (.ok (encodeFixes (QuickFix.offer params.uri params.diagnostics))), s, [],
        log⟩ := by
  have hserved : (ClientMessage.request id "textDocument/codeAction" (some v) reply).served? s =
      some (.codeAction params) := by
    refine served?_of_decode (m := .codeAction) rfl (by simp) hg ?_
    simp only [RequestMethod.decode, hv]
    rfl
  have hact : (Request.codeAction params).act.run s = _ := run_offerFixes hs params
  exact ⟨_, (run_request_of_served hserved).trans
    (run_serve_of_finished hg rfl (by simp) hact id reply)⟩

/-- After every run that leaves the gate at work, a request for code actions is answered with one
quick fix for each diagnostic of this server that came along, in their order, and null if there is
none; each of them remedies its diagnostic. In particular every problem that was published for the
document is remedied, at its own index, when they are sent along as they came. -/
theorem fixes_remedy_diagnostics (ms : List ClientMessage) (s : Server)
    (hs : serverAfter {} (ms.map ClientMessage.step) = s) (hg : s.gate = .initialized) (v : Json)
    (params : CodeActionParams) (hv : CodeActionParams.decode v = .ok params)
    (huri : Url.parse params.uri.text = .ok params.uri) (id : RequestId) (reply : ClientReply) :
    ∃ result log, (ClientMessage.request id "textDocument/codeAction" (some v) reply).run s =
        ⟨.reply id (.ok result), s, [], log⟩ ∧
      (ownDiagnostics params.diagnostics = [] → result = .null) ∧
      (ownDiagnostics params.diagnostics ≠ [] → ∃ actions, result = .arr actions ∧
        List.Forall₂ (Remedies s params.uri) (ownDiagnostics params.diagnostics) actions) ∧
      ∀ ds, .publish params.uri ds ∈ sentIn {} (ms.map ClientMessage.step) →
        contextDiagnostics? v = (Outbound.publish params.uri ds).params.get? "diagnostics" →
        ∀ (i : Nat) d, ds[i]? = some d → ∃ actions action,
          result = .arr actions ∧ actions[i]? = some action ∧ Remedies s params.uri d action := by
  have hstep : InStep s := hs ▸ inStep_fresh.serverAfter ms
  have hremedies := hstep.remedies huri
  obtain ⟨log, hrun⟩ := run_codeAction hg (hstep.of_initialized hg) hv id reply
  refine ⟨_, log, hrun, fun hnil => ?_, fun hne => ?_, fun ds hds hcontext i d hd => ?_⟩
  · rw [encodeFixes_offer, if_pos hnil]
  · refine ⟨_, by rw [encodeFixes_offer, if_neg hne], ?_⟩
    exact List.forall₂_map_right_iff.mpr (List.forall₂_same.mpr fun d _ => hremedies d)
  · have hshout : ∀ d ∈ ds, ∃ line s, d = Shout.diagnostic line s :=
      fun d hd => inStep_fresh.exists_shout_of_mem_sentIn hds hd
    -- What the client sends along is what was published, and all of it is this server's own.
    obtain ⟨found, hfound, hlist⟩ := exists_contextDiagnostics hv
    have hparams : params.diagnostics = ds := by
      cases hfound.symm.trans hcontext
      exact Except.ok.inj (hlist.symm.trans (list_decode_encodeList hshout))
    have hne : ds ≠ [] := by
      rintro rfl
      cases hd
    rw [encodeFixes_offer, hparams, ownDiagnostics_of_scan hshout, if_neg hne]
    exact ⟨_, _, rfl, by rw [List.getElem?_map, hd]; rfl, hremedies d⟩

/-- A client starts the session and opens a document. -/
def openingMessages (uri text : String) : List ClientMessage :=
  [.request (.number 1) "initialize" (some (.obj [("capabilities", .obj [])])) (.result .null),
    .notify "textDocument/didOpen" (some (.obj [("textDocument", .obj [("uri", .str uri),
      ("languageId", .str "plaintext"), ("version", .int 1), ("text", .str text)])]))]

/-- The parameters of a request for code actions that sends diagnostics along. -/
def codeActionJson (uri : String) (range : Range) (ds : List Diagnostic) : Json :=
  .obj [("textDocument", .obj [("uri", .str uri)]), ("range", range.encode),
    ("context", .obj [("diagnostics", Diagnostic.encodeList ds)])]

/-- The problem of a document that was just opened is remedied by the first action. -/
theorem fixes_remedy_diagnostics_once_opened :
    ∃ result log actions action,
      (ClientMessage.request (.number 2) "textDocument/codeAction"
          (some (codeActionJson "file:///a" ⟨⟨0, 0⟩, ⟨0, 2⟩⟩ [Shout.diagnostic 0 ⟨0, "AB".toList⟩]))
          (.result .null)).run
          (serverAfter {} ((openingMessages "file:///a" "AB cd").map ClientMessage.step)) =
        ⟨.reply (.number 2) (.ok result),
          serverAfter {} ((openingMessages "file:///a" "AB cd").map ClientMessage.step), [], log⟩ ∧
      result = .arr actions ∧ actions[0]? = some action ∧
      Remedies (serverAfter {} ((openingMessages "file:///a" "AB cd").map ClientMessage.step))
        ⟨"file:///a"⟩ (Shout.diagnostic 0 ⟨0, "AB".toList⟩) action := by
  obtain ⟨result, log, hrun, -, -, hpublished⟩ :=
    fixes_remedy_diagnostics (openingMessages "file:///a" "AB cd") _ rfl rfl
      (codeActionJson "file:///a" ⟨⟨0, 0⟩, ⟨0, 2⟩⟩ [Shout.diagnostic 0 ⟨0, "AB".toList⟩])
      ⟨⟨"file:///a"⟩, ⟨⟨0, 0⟩, ⟨0, 2⟩⟩, [Shout.diagnostic 0 ⟨0, "AB".toList⟩]⟩ rfl rfl
      (.number 2) (.result .null)
  have hsent : sentIn {} ((openingMessages "file:///a" "AB cd").map ClientMessage.step) =
      [.publish ⟨"file:///a"⟩ [Shout.diagnostic 0 ⟨0, "AB".toList⟩]] := rfl
  obtain ⟨actions, action, hresult, haction, hremedies⟩ :=
    hpublished _ (hsent ▸ List.mem_singleton_self _) rfl 0 _ rfl
  exact ⟨result, log, actions, action, hrun, hresult, haction, hremedies⟩

end Majuscule
