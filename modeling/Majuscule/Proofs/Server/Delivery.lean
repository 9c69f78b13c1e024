import Majuscule.Proofs.Server.Isolation

/-!
# Every push once

While the gate is at work, each notification has its own share of messages to the client. `Delivers`
lists them case by case, the silent cases included : the problems of a document are pushed once
where its text was set, dropped or saved, and once for every open document where new settings were
accepted. Each push holds what the server shows of the document afterwards (`Server.push`). `Stores`
says the same for the documents : only an opening, a change with texts and a closing write, and they
write nothing but their own document.

Both hold of every notification by itself (`Notice.delivers`, `Notice.stores`), and therefore of
every one that is accepted in the course of a run; any other that is sent leaves nothing behind
(`notices_delivered`).
-/

namespace Majuscule

open Act

/-! ## Messages -/

/-- The document is open. -/
def Server.IsOpen (s : Server) (uri : Url) : Prop :=
  s.documents.text? uri ≠ none

/-- The message that brings the client up to date about a document. -/
def Server.push (s : Server) (uri : Url) : Outbound :=
  .publish uri (s.shown uri)

/-- What is sent for a notification that finds the server as `s` and leaves it as `next`. -/
inductive Delivers (s next : Server) : Notice → List Outbound → Prop where
  | initialized : Delivers s next .initialized [.logMessage "capslock-lsp ready"]
  | didOpen (params : OpenParams) : Delivers s next (.didOpen params) [next.push params.uri]
  | didChange {params : ChangeParams} (h : params.fragments ≠ []) :
    Delivers s next (.didChange params) [next.push params.uri]
  | emptyChange {params : ChangeParams} (h : params.fragments = []) :
    Delivers s next (.didChange params) []
  | didSave {uri : Url} (h : s.IsOpen uri) : Delivers s next (.didSave uri) [next.push uri]
  | saveOfClosed {uri : Url} (h : ¬s.IsOpen uri) : Delivers s next (.didSave uri) []
  | didClose (uri : Url) : Delivers s next (.didClose uri) [next.push uri]
  | newSettings {v : Json} {settings : Settings} (h : Settings.accepted? v = some settings)
    {uris : List Url} (hnodup : uris.Nodup) (hopen : ∀ uri, uri ∈ uris ↔ s.IsOpen uri) :
    Delivers s next (.didChangeConfiguration v)
      (.logMessage "capslock-lsp settings updated" :: uris.map next.push)
  | ignoredSettings {v : Json} (h : Settings.accepted? v = none) :
    Delivers s next (.didChangeConfiguration v) []
  | didChangeWatchedFiles (count : Nat) : Delivers s next (.didChangeWatchedFiles count) []

theorem report_of_isOpen {s : Server} {uri : Url} (h : s.IsOpen uri) :
    s.report uri = [s.push uri] := by
  obtain ⟨text, htext⟩ := Option.ne_none_iff_exists'.mp h
  simp [Server.report, Server.push, Server.shown, htext]

theorem report_of_not_isOpen {s : Server} {uri : Url} (h : ¬s.IsOpen uri) : s.report uri = [] := by
  have hnone : s.documents.text? uri = none := Decidable.byContradiction h
  simp [Server.report, hnone]

theorem mem_uris_iff {s : Server} {uri : Url} : uri ∈ s.documents.uris ↔ s.IsOpen uri := by
  constructor
  · intro h hnone
    obtain ⟨e, he, rfl⟩ := List.mem_map.mp h
    simpa using List.lookup_eq_none_iff.mp hnone e he
  · intro h
    obtain ⟨text, htext⟩ := Option.ne_none_iff_exists'.mp h
    exact mem_uris_of_text? htext

theorem flatMap_report_of_isOpen {s : Server} {uris : List Url} (h : ∀ uri ∈ uris, s.IsOpen uri) :
    uris.flatMap s.report = uris.map s.push := by
  have hreports : uris.map s.report = uris.map fun uri => [s.push uri] :=
    List.map_congr_left fun uri huri => report_of_isOpen (h uri huri)
  rw [List.flatMap_def, hreports, ← List.flatMap_def, List.map_eq_flatMap]

/-- Every notification sends what it should. -/
theorem Notice.delivers (n : Notice) (s : Server) : Delivers s (n.after s) n (n.sends s) := by
  cases n with
  | initialized => exact .initialized
  | didOpen params =>
    have hopen : ((Notice.didOpen params).after s).IsOpen params.uri := by
      simp [Server.IsOpen, Notice.after, Documents.text?_put]
    rw [Notice.sends, report_of_isOpen hopen]
    exact .didOpen params
  | didChange params =>
    by_cases h : params.fragments = []
    · rw [Notice.sends, if_pos h]
      exact .emptyChange h
    · have hopen : ((Notice.didChange params).after s).IsOpen params.uri := by
        simp [Server.IsOpen, Notice.after, Documents.change?, List.getLast?_eq_some_getLast h,
          Documents.text?_put]
      rw [Notice.sends, if_neg h, report_of_isOpen hopen]
      exact .didChange h
  | didSave uri =>
    by_cases h : s.IsOpen uri
    · rw [Notice.sends, report_of_isOpen h]
      exact .didSave h
    · rw [Notice.sends, report_of_not_isOpen h]
      exact .saveOfClosed h
  | didClose uri =>
    have hshown : ((Notice.didClose uri).after s).shown uri = [] :=
      shown_of_none (by simp [Notice.after, Documents.text?_remove])
    have hpush : ((Notice.didClose uri).after s).push uri = .publish uri [] := by
      rw [Server.push, hshown]
    rw [Notice.sends, ← hpush]
    exact .didClose uri
  | didChangeConfiguration v =>
    cases h : Settings.accepted? v with
    | none =>
      rw [Notice.sends, h]
      exact .ignoredSettings h
    | some settings =>
      have hopen : ∀ uri ∈ s.documents.uris,
          ((Notice.didChangeConfiguration v).after s).IsOpen uri :=
        fun uri huri => mem_uris_iff.mp huri
      rw [Notice.sends, h, flatMap_report_of_isOpen hopen]
      exact .newSettings h (nodup_uris s.documents) fun uri => mem_uris_iff
  | didChangeWatchedFiles count => exact .didChangeWatchedFiles count

/-! ## Documents -/

/-- The notification writes a document : it opens or closes it, or brings at
least one text for it. -/
def Notice.Writes (uri : Url) : Notice → Prop
  | didOpen params => params.uri = uri
  | didChange params => params.fragments ≠ [] ∧ params.uri = uri
  | didClose closed => closed = uri
  | _ => False

/-- The text that a notification brings, if it brings one. -/
def Notice.text? : Notice → Option String
  | didOpen params => some params.text
  | didChange params => params.fragments.getLast?
  | _ => none

/-- What becomes of the documents with a notification that finds the server as `s`
and leaves it as `next`. -/
structure Stores (s next : Server) (n : Notice) : Prop where
  text_of_writes : ∀ uri, n.Writes uri → next.documents.text? uri = n.text?
  text_of_not_writes : ∀ uri, ¬n.Writes uri → next.documents.text? uri = s.documents.text? uri
  documents_eq : (∀ uri, ¬n.Writes uri) → next.documents = s.documents

/-- Every notification writes what it should, and nothing else. -/
theorem Notice.stores (n : Notice) (s : Server) : Stores s (n.after s) n where
  text_of_writes uri h := by
    rw [n.text?_after]
    cases n with
    | didOpen params => simp_all [Notice.Writes, Notice.text?, Intake.text?]
    | didChange params =>
      obtain ⟨hne, huri⟩ := h
      simp [Notice.text?, Intake.text?, huri, List.getLast?_eq_some_getLast hne]
    | didClose closed => simp_all [Notice.Writes, Notice.text?, Intake.text?]
    | _ => exact h.elim
  text_of_not_writes uri h := by
    rw [n.text?_after]
    cases n with
    | didOpen params => simp_all [Notice.Writes, Intake.text?]
    | didChange params =>
      by_cases hnil : params.fragments = []
      · simp [Intake.text?, hnil]
      · have huri : params.uri ≠ uri := fun huri => h ⟨hnil, huri⟩
        simp [Intake.text?, huri]
    | didClose closed => simp_all [Notice.Writes, Intake.text?]
    | _ => rfl
  documents_eq h := by
    cases n with
    | didOpen params => exact absurd rfl (h params.uri)
    | didChange params =>
      have hnil : params.fragments = [] := Decidable.byContradiction fun hne =>
        h params.uri ⟨hne, rfl⟩
      simp [Notice.after, Documents.change?, hnil]
    | didClose closed => exact absurd rfl (h closed)
    | _ => rfl

/-! ## In a run -/

/-- After every run that leaves the gate at work, a notification with parameters that decode sends
exactly the messages that `Delivers` lists for it, and does to the documents what `Stores` says;
whatever else comes as a notification sends nothing and leaves the documents alone. -/
theorem notices_delivered (ms : List ClientMessage) (s : Server)
    (hs : serverAfter {} (ms.map ClientMessage.step) = s) (hg : s.gate = .initialized)
    (name : String) (params : Option Json) (o : Outcome StepAnswer)
    (ho : (ClientMessage.notify name params).run s = o) :
    (∀ m v n, NoticeMethod.names.lookup name = some m → params = some v → m.decode v = .ok n →
      Delivers s o.server n o.sent ∧ Stores s o.server n) ∧
    ((∀ m v n, NoticeMethod.names.lookup name = some m → params = some v → m.decode v ≠ .ok n) →
      o.sent = [] ∧ o.server.documents = s.documents) := by
  have hstep : InStep s := hs ▸ inStep_fresh.serverAfter ms
  subst ho
  constructor
  · rintro m v n hname rfl hdecode
    have haccepted : (ClientMessage.notify name (some v)).accepted? s = some n :=
      accepted?_notify_eq_some_iff.mpr ⟨hg, m, hname, present_of_ok hdecode⟩
    obtain ⟨log, hrun⟩ := hstep.run_of_accepted haccepted
    rw [hrun]
    exact ⟨n.delivers s, n.stores s⟩
  · intro h
    have hdropped : (ClientMessage.notify name params).accepted? s = none := by
      refine Option.eq_none_iff_forall_not_mem.mpr fun n hn => ?_
      obtain ⟨-, m, hname, hpresent⟩ := accepted?_notify_eq_some_iff.mp hn
      obtain ⟨v, hv, hdecode⟩ := present_eq_ok_iff.mp hpresent
      exact h m v n hname hv hdecode
    obtain ⟨hserver, hsent⟩ := run_of_turned_away (m := .notify name params) rfl hdropped
    rw [hserver]
    exact ⟨hsent, rfl⟩

/-- A client starts the server, opens a document, and changes another one that it never opened. -/
def twoDocuments : List ClientMessage :=
  [.request (.number 1) "initialize" (some (.obj [("capabilities", .obj [])])) (.result .null),
    .notify "textDocument/didOpen" (some (.obj [("textDocument", .obj [("uri", .str "file:///b"),
      ("languageId", .str "plaintext"), ("version", .int 1), ("text", .str "AB")])])),
    .notify "textDocument/didChange"
      (some (.obj [("textDocument", .obj [("uri", .str "file:///a"), ("version", .int 1)]),
      ("contentChanges", .arr [.obj [("text", .str "CD EF")]])]))]

/-- New settings are announced, and then both documents are pushed with them. -/
theorem notices_delivered_new_settings :
    (serverAfter {} (twoDocuments.map ClientMessage.step)).gate = .initialized ∧
    ∃ o, (ClientMessage.notify "workspace/didChangeConfiguration"
          (some (.obj [("settings", .obj [("maxNumberOfProblems", .int 1)])]))).run
          (serverAfter {} (twoDocuments.map ClientMessage.step)) = o ∧
      o.sent = [.logMessage "capslock-lsp settings updated", o.server.push ⟨"file:///a"⟩,
        o.server.push ⟨"file:///b"⟩] ∧
      Delivers (serverAfter {} (twoDocuments.map ClientMessage.step)) o.server
        (.didChangeConfiguration (.obj [("maxNumberOfProblems", .int 1)])) o.sent := by
  refine ⟨rfl, _, rfl, rfl, ?_⟩
  have h := notices_delivered twoDocuments _ rfl rfl "workspace/didChangeConfiguration"
    (some (.obj [("settings", .obj [("maxNumberOfProblems", .int 1)])])) _ rfl
  exact (h.1 .didChangeConfiguration _ _ rfl rfl rfl).1

end Majuscule
