import Majuscule.Proofs.Server.ClientView

/-!
# Documents do not disturb each other

What the server publishes for a document depends on the messages about this document, on settings
and on the life of the connection, and on nothing else. `projection` keeps just these messages of a
run; leaving out all others changes neither the problems published for the document, nor its text,
nor the session (`publications_projection`).

The two runs are compared by `Agrees` : gate, session and settings are the same, and so is the text
of the document. A message that is kept keeps two servers in agreement, with the same publications
(`Agrees.run`), and one that is left out moves the first server only as far as the agreement allows,
and publishes nothing for the document (`Agrees.run_left`).
-/

namespace Majuscule

open Act

/-! ## The messages that matter to a document -/

/-- The document that a notification is about. -/
def Notice.document? : Notice → Option Url
  | didOpen params => some params.uri
  | didChange params => some params.uri
  | didSave uri => some uri
  | didClose uri => some uri
  | _ => none

namespace ClientMessage

/-- The document that a message is about, if it was sent as a notification with
parameters that decode. -/
def document? : ClientMessage → Option Url
  | request _ _ _ _ => none
  | notify method params => do
    let m ← NoticeMethod.names.lookup method
    let n ← (present m.decode params).toOption
    n.document?

/-- The methods that matter to every document. -/
def sharedMethods : List String :=
  ["initialize", "shutdown", "exit", "workspace/didChangeConfiguration"]

/-- The message matters to a document. -/
def Concerns (uri : Url) (m : ClientMessage) : Prop :=
  m.method ∈ sharedMethods ∨ m.document? = some uri

instance (uri : Url) (m : ClientMessage) : Decidable (m.Concerns uri) :=
  inferInstanceAs (Decidable (_ ∨ _))

end ClientMessage

/-- The messages of a run that matter to a document. -/
def projection (uri : Url) (ms : List ClientMessage) : List ClientMessage :=
  ms.filter fun m => m.Concerns uri

/-! ## Messages that are left out -/

/-- What becomes of a message depends on the gate alone. -/
theorem served?_congr {s t : Server} (h : s.gate = t.gate) (m : ClientMessage) :
    m.served? s = m.served? t := by
  cases m with
  | request id name params reply => simp only [ClientMessage.served?, h]
  | notify name params => rfl

theorem accepted?_congr {s t : Server} (h : s.gate = t.gate) (m : ClientMessage) :
    m.accepted? s = m.accepted? t := by
  cases m with
  | request id name params reply => rfl
  | notify name params => simp only [ClientMessage.accepted?, h]

theorem gateAfter_of_not_shared {m : ClientMessage} (h : m.method ∉ ClientMessage.sharedMethods)
    (g : Gate) : m.gateAfter g = g := by
  have hexit : m.method ≠ "exit" := fun he => h (by simp [he, ClientMessage.sharedMethods])
  have hshutdown : m.method ≠ "shutdown" := fun hs => h (by simp [hs, ClientMessage.sharedMethods])
  rw [gateAfter_eq, if_neg hexit, if_neg fun hs => hshutdown hs.1]

/-! ## Messages that are carried out -/

theorem InStep.run_of_accepted {s : Server} (h : InStep s) {m : ClientMessage} {n : Notice}
    (hn : m.accepted? s = some n) : ∃ log, m.run s = ⟨.silent, n.after s, n.sends s, log⟩ := by
  cases m with
  | request => cases hn
  | notify name params =>
    have hg := (accepted?_notify_eq_some_iff.mp hn).1
    obtain ⟨log, hact⟩ := n.exists_run hg (h.of_initialized hg)
    exact ⟨log, by rw [run_notify_of_accepted hn, hact]⟩

theorem document?_of_accepted {s : Server} {m : ClientMessage} {n : Notice}
    (hn : m.accepted? s = some n) : m.document? = n.document? := by
  cases m with
  | request => cases hn
  | notify name params =>
    obtain ⟨-, method, hname, hdecode⟩ := accepted?_notify_eq_some_iff.mp hn
    simp [ClientMessage.document?, hname, hdecode, Except.toOption]

/-- New settings come by a method that matters to every document. -/
theorem settings_of_not_shared {s : Server} {m : ClientMessage} {n : Notice}
    (h : m.method ∉ ClientMessage.sharedMethods) (hn : m.accepted? s = some n) (v : Json) :
    n ≠ .didChangeConfiguration v := by
  rintro rfl
  cases m with
  | request => cases hn
  | notify name params =>
    obtain ⟨-, method, hname, hdecode⟩ := accepted?_notify_eq_some_iff.mp hn
    obtain ⟨w, -, hw⟩ := present_eq_ok_iff.mp hdecode
    have hmethod : method = .didChangeConfiguration := by
      cases method with
      | didChangeConfiguration => rfl
      | _ =>
        obtain ⟨_, -, heq⟩ := Decode.exists_of_map_eq_ok hw
        cases heq
    subst hmethod
    have : name = "workspace/didChangeConfiguration" := by
      simpa [NoticeMethod.names] using mem_of_lookup hname
    simp [ClientMessage.method, ClientMessage.sharedMethods, this] at h

/-- Starting and shutting down come by methods that matter to every document; all other
requests ask for features. -/
theorem feature_of_not_shared {s : Server} {id : RequestId} {name : String} {params : Option Json}
    {reply : ClientReply} {r : Request}
    (h : (ClientMessage.request id name params reply).method ∉ ClientMessage.sharedMethods)
    (hs : InStep s) (hr : (ClientMessage.request id name params reply).served? s = some r)
    (hg : s.gate = r.method.gate) :
    r ≠ .shutdown ∧ r.method.gate = .initialized ∧ s.gate = .initialized ∧
      s.session = .initialized := by
  obtain ⟨method, hname, -, hread⟩ := served?_request_eq_some_iff.mp hr
  have hmethod := method_of_read hread
  rcases hs.serve_cases hg with ⟨decoded, rfl, -⟩ | ⟨rfl, -⟩ | hfeature
  · have : name = "initialize" := (RequestMethod.name_eq_iff hname rfl).mpr hmethod.symm
    simp [ClientMessage.method, ClientMessage.sharedMethods, this] at h
  · have : name = "shutdown" := (RequestMethod.name_eq_iff hname rfl).mpr hmethod.symm
    simp [ClientMessage.method, ClientMessage.sharedMethods, this] at h
  · exact hfeature

/-! ## Publications for one document -/

/-- Every document is open only once. -/
theorem nodup_uris (d : Documents) : d.uris.Nodup := by
  refine (List.pairwise_map.mpr ?_ : d.uris.Pairwise (· ≠ ·))
  refine d.sorted.imp fun {a b} h heq => ?_
  rw [heq] at h
  exact String.lt_irrefl _ h

theorem publications_flatMap_report (s : Server) (uri : Url) {uris : List Url} (h : uris.Nodup) :
    publications uri (uris.flatMap s.report) =
      if uri ∈ uris then publications uri (s.report uri) else [] := by
  induction uris with
  | nil => rfl
  | cons other rest ih =>
    obtain ⟨hnot, hrest⟩ := List.nodup_cons.mp h
    rw [List.flatMap_cons, publications_append, ih hrest]
    by_cases hu : other = uri
    · subst hu
      simp [hnot]
    · rw [publications_report_ne s hu]
      simp [Ne.symm hu]

/-- When all open documents are reported, each is reported once. -/
theorem publications_uris (s : Server) (uri : Url) :
    publications uri (s.documents.uris.flatMap s.report) = publications uri (s.report uri) := by
  rw [publications_flatMap_report s uri (nodup_uris s.documents)]
  split
  · rfl
  · next hclosed =>
    cases htext : s.documents.text? uri with
    | none => simp [Server.report, htext, publications]
    | some text => exact absurd (mem_uris_of_text? htext) hclosed

/-! ## Agreement -/

/-- Two servers agree as far as a document is concerned. -/
structure Agrees (uri : Url) (s t : Server) : Prop where
  gate_eq : s.gate = t.gate
  session_eq : s.session = t.session
  settings_eq : s.settings = t.settings
  text_eq : s.documents.text? uri = t.documents.text? uri

theorem Agrees.refl (uri : Url) (s : Server) : Agrees uri s s :=
  ⟨rfl, rfl, rfl, rfl⟩

section Step

variable {uri : Url} {s t : Server}

theorem Agrees.inStep (h : Agrees uri s t) (hs : InStep s) : InStep t :=
  hs.of_stage (by rw [Server.stage, Server.stage, h.gate_eq, h.session_eq])

theorem Agrees.publications_report (h : Agrees uri s t) (other : Url) :
    publications uri (s.report other) = publications uri (t.report other) := by
  by_cases hu : other = uri
  · subst hu
    rw [publications_report_self, publications_report_self, h.text_eq, h.settings_eq]
  · rw [publications_report_ne s hu, publications_report_ne t hu]

/-- A notification keeps servers in agreement. -/
theorem Agrees.after (h : Agrees uri s t) (n : Notice) : Agrees uri (n.after s) (n.after t) where
  gate_eq := by cases n <;> exact h.gate_eq
  session_eq := by cases n <;> exact h.session_eq
  settings_eq := by rw [n.settings_after, n.settings_after, h.settings_eq]
  text_eq := by rw [n.text?_after, n.text?_after, h.text_eq]

/-- Servers that agree publish the same for a notification. -/
theorem Agrees.publications_sends (h : Agrees uri s t) (n : Notice) :
    publications uri (n.sends s) = publications uri (n.sends t) := by
  have hafter := h.after n
  cases n with
  | initialized => rfl
  | didOpen params => exact hafter.publications_report params.uri
  | didChange params =>
    simp only [Notice.sends]
    split
    · rfl
    · exact hafter.publications_report params.uri
  | didSave other => exact h.publications_report other
  | didClose other => rfl
  | didChangeConfiguration v =>
    simp only [Notice.sends]
    split
    · have hs := publications_uris ((Notice.didChangeConfiguration v).after s) uri
      have ht := publications_uris ((Notice.didChangeConfiguration v).after t) uri
      exact hs.trans ((hafter.publications_report uri).trans ht.symm)
    · rfl
  | didChangeWatchedFiles count => rfl

/-- A message that both get keeps two servers in agreement, and publishes the same on both. -/
theorem Agrees.run (h : Agrees uri s t) (hs : InStep s) (m : ClientMessage) :
    Agrees uri (m.run s).server (m.run t).server ∧
      publications uri (m.run s).sent = publications uri (m.run t).sent := by
  have hserved := served?_congr h.gate_eq m
  have haccepted := accepted?_congr h.gate_eq m
  rcases m.run_cases s with ⟨id, name, params, reply, r, rfl, hr, -, hg, hrun⟩ | ⟨n, -, hn, -⟩ |
    ⟨a, g, hr, hn, -⟩
  · rw [hrun, run_request_of_served (hserved.symm.trans hr)]
    rcases hs.serve_cases hg with ⟨params, rfl, hx⟩ | ⟨rfl, hx⟩ | ⟨hne, hgate, hg, hx⟩
    · rw [run_serve_start hx, run_serve_start (h.session_eq.symm.trans hx)]
      exact ⟨⟨rfl, rfl, by rw [h.settings_eq], h.text_eq⟩, rfl⟩
    · rw [run_serve_shutdown hx, run_serve_shutdown (h.session_eq.symm.trans hx)]
      exact ⟨⟨rfl, rfl, h.settings_eq, h.text_eq⟩, rfl⟩
    · obtain ⟨_, _, _, _, hserve, -, hedits, -⟩ := run_serve_of_feature hg hx hgate hne id reply
      obtain ⟨_, _, _, _, hserve', -, hedits', -⟩ :=
        run_serve_of_feature (h.gate_eq.symm.trans hg)
          (h.session_eq.symm.trans hx) hgate hne id reply
      rw [hserve, hserve', publications_of_edits hedits, publications_of_edits hedits']
      exact ⟨⟨h.gate_eq, h.session_eq, h.settings_eq, h.text_eq⟩, rfl⟩
  · obtain ⟨log, hrun⟩ := hs.run_of_accepted hn
    obtain ⟨log', hrun'⟩ := (h.inStep hs).run_of_accepted (haccepted.symm.trans hn)
    rw [hrun, hrun']
    exact ⟨h.after n, h.publications_sends n⟩
  · obtain ⟨hserver, hsent⟩ := run_of_turned_away hr hn
    obtain ⟨hserver', hsent'⟩ := run_of_turned_away (hserved.symm.trans hr)
      (haccepted.symm.trans hn)
    rw [hserver, hserver', hsent, hsent', h.gate_eq]
    exact ⟨⟨rfl, h.session_eq, h.settings_eq, h.text_eq⟩, rfl⟩

/-! ## Messages that do not matter -/

/-- A notification about something else leaves the document and the settings alone, and publishes
nothing for the document. -/
theorem Agrees.after_left (h : Agrees uri s t) {n : Notice} (hother : n.document? ≠ some uri)
    (hsettings : ∀ v, n ≠ .didChangeConfiguration v) :
    Agrees uri (n.after s) t ∧ publications uri (n.sends s) = [] := by
  have hafter : Agrees uri (n.after s) s := by
    refine ⟨by cases n <;> rfl, by cases n <;> rfl, ?_, ?_⟩
    · rw [n.settings_after]
      cases n with
      | didChangeConfiguration v => exact absurd rfl (hsettings v)
      | _ => rfl
    · rw [n.text?_after]
      cases n with
      | didOpen params => simp_all [Intake.text?, Notice.document?]
      | didChange params => simp_all [Intake.text?, Notice.document?]
      | didClose other => simp_all [Intake.text?, Notice.document?]
      | _ => rfl
  refine ⟨⟨hafter.gate_eq.trans h.gate_eq, hafter.session_eq.trans h.session_eq,
    hafter.settings_eq.trans h.settings_eq, hafter.text_eq.trans h.text_eq⟩, ?_⟩
  cases n with
  | initialized => rfl
  | didOpen params => exact publications_report_ne _ (by simpa [Notice.document?] using hother)
  | didChange params =>
    simp only [Notice.sends]
    split
    · rfl
    · exact publications_report_ne _ (by simpa [Notice.document?] using hother)
  | didSave other => exact publications_report_ne _ (by simpa [Notice.document?] using hother)
  | didClose other =>
    have hu : other ≠ uri := by simpa [Notice.document?] using hother
    simp [Notice.sends, publications, hu]
  | didChangeConfiguration v => exact absurd rfl (hsettings v)
  | didChangeWatchedFiles count => rfl

/-- A message that does not matter to a document leaves a server in agreement with one that does not
get it, and publishes nothing for the document. -/
theorem Agrees.run_left (h : Agrees uri s t) (hs : InStep s) {m : ClientMessage}
    (hm : ¬m.Concerns uri) :
    Agrees uri (m.run s).server t ∧ publications uri (m.run s).sent = [] := by
  obtain ⟨hshared, hother⟩ := not_or.mp hm
  rcases m.run_cases s with ⟨id, name, params, reply, r, rfl, hr, -, hg, hrun⟩ | ⟨n, -, hn, -⟩ |
    ⟨a, g, hr, hn, -⟩
  · obtain ⟨hne, hgate, hg, hx⟩ := feature_of_not_shared hshared hs hr hg
    obtain ⟨_, _, _, _, hserve, -, hedits, -⟩ := run_serve_of_feature hg hx hgate hne id reply
    rw [hrun, hserve, publications_of_edits hedits]
    exact ⟨⟨h.gate_eq, h.session_eq, h.settings_eq, h.text_eq⟩, rfl⟩
  · obtain ⟨log, hrun⟩ := hs.run_of_accepted hn
    rw [hrun]
    exact h.after_left (by rwa [← document?_of_accepted hn]) (fun v =>
      settings_of_not_shared hshared hn v)
  · obtain ⟨hserver, hsent⟩ := run_of_turned_away hr hn
    rw [hserver, hsent, gateAfter_of_not_shared hshared]
    exact ⟨h, rfl⟩

end Step

/-! ## Two runs -/

theorem sentIn_cons (s : Server) (m : ClientMessage) (ms : List ClientMessage) :
    sentIn s ((m :: ms).map ClientMessage.step) =
      (m.run s).sent ++ sentIn (m.run s).server (ms.map ClientMessage.step) := rfl

/-- A run and its projection keep servers in agreement, and publish the same for the document. -/
theorem Agrees.projection {uri : Url} {s t : Server} (h : Agrees uri s t) (hs : InStep s)
    (ms : List ClientMessage) :
    Agrees uri (serverAfter s (ms.map ClientMessage.step))
        (serverAfter t ((Majuscule.projection uri ms).map ClientMessage.step)) ∧
      publications uri (sentIn s (ms.map ClientMessage.step)) =
        publications uri (sentIn t ((Majuscule.projection uri ms).map ClientMessage.step)) := by
  induction ms generalizing s t with
  | nil => exact ⟨h, rfl⟩
  | cons m ms ih =>
    rw [sentIn_cons, publications_append]
    by_cases hm : m.Concerns uri
    · obtain ⟨hagrees, hsent⟩ := h.run hs m
      obtain ⟨hfinal, hrest⟩ := ih hagrees (hs.run m)
      have hkept : Majuscule.projection uri (m :: ms) = m :: Majuscule.projection uri ms := by
        simp [Majuscule.projection, hm]
      rw [hkept, sentIn_cons, publications_append, hsent, hrest]
      exact ⟨hfinal, rfl⟩
    · obtain ⟨hagrees, hsent⟩ := h.run_left hs hm
      obtain ⟨hfinal, hrest⟩ := ih hagrees (hs.run m)
      have hleft : Majuscule.projection uri (m :: ms) = Majuscule.projection uri ms := by
        simp [Majuscule.projection, hm]
      rw [hleft, hsent, hrest]
      exact ⟨hfinal, rfl⟩

/-- Leaving out of a run all messages that do not matter to a document changes neither what is
published for it, nor its text, nor the session. -/
theorem publications_projection (uri : Url) (ms : List ClientMessage) :
    publications uri (sentIn {} (ms.map ClientMessage.step)) =
        publications uri (sentIn {} ((projection uri ms).map ClientMessage.step)) ∧
      (serverAfter {} (ms.map ClientMessage.step)).session =
        (serverAfter {} ((projection uri ms).map ClientMessage.step)).session ∧
      (serverAfter {} (ms.map ClientMessage.step)).documents.text? uri =
        (serverAfter {} ((projection uri ms).map ClientMessage.step)).documents.text? uri := by
  obtain ⟨hagrees, hsent⟩ := (Agrees.refl uri {}).projection inStep_fresh ms
  exact ⟨hsent, hagrees.session_eq, hagrees.text_eq⟩

end Majuscule
