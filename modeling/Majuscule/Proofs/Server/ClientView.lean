import Majuscule.Proofs.Server.InStep
import Majuscule.Proofs.Server.Notice

/-!
# What the client sees

A client shows, for each document, the problems that were published last. This file says what they
are after any run through the gate, in terms of what the run took in (`history`) : the options of
the start-up that succeeded and the notifications that were accepted.

The last thing that the history says of a document is its text or that it is closed (`lastText`),
and the last settings in it that were accepted give the limit (`lastLimit`). If the document has a
text, its problems were published, and the last publication holds those of that text up to the
limit; if not, it was never published or the last publication is empty (`publications_getLast?`).
The invariant is `Tracks` : store, settings and last publication agree with the history, and no
document is open before start-up.
-/

namespace Majuscule

open Act

/-! ## What a run took in -/

/-- What the server takes in. -/
inductive Intake where
  /-- The options of a start-up that succeeded. -/
  | options (v : Json)
  /-- A notification that was accepted. -/
  | notice (n : Notice)

/-- The options that came with a start-up that succeeded. -/
def ClientMessage.options? (s : Server) : ClientMessage → Option Json
  | notify _ _ => none
  | request id method params reply =>
    match ((request id method params reply).run s).value with
    | .reply _ (.ok _) =>
      if method = "initialize" then do
        let v ← params
        let decoded ← (InitializeParams.decode v).toOption
        decoded.initializationOptions
      else none
    | _ => none

/-- What the server takes in from a message. -/
def ClientMessage.intake? (s : Server) (m : ClientMessage) : Option Intake :=
  ((m.accepted? s).map .notice).or ((m.options? s).map .options)

/-- What a run takes in, in order. -/
def history (s : Server) : List ClientMessage → List Intake
  | [] => []
  | m :: rest => (m.intake? s).toList ++ history (m.run s).server rest

/-- The last thing of some kind in a history. -/
def latest {α : Type} (view : Intake → Option α) (h : List Intake) : Option α :=
  h.reverse.findSome? view

/-- What an intake says of a document : its text, or that it is closed. A change
without texts says nothing. -/
def Intake.text? (uri : Url) : Intake → Option (Option String)
  | notice (.didOpen params) => if params.uri = uri then some (some params.text) else none
  | notice (.didChange params) =>
    if params.uri = uri then params.fragments.getLast?.map some else none
  | notice (.didClose closed) => if closed = uri then some none else none
  | _ => none

/-- The settings in an intake, if they are accepted. -/
def Intake.settings? : Intake → Option Settings
  | options v => Settings.accepted? v
  | notice (.didChangeConfiguration v) => Settings.accepted? v
  | _ => none

/-- The text of the last accepted opening or change of a document that no closing follows. -/
def lastText (uri : Url) (h : List Intake) : Option String :=
  (latest (Intake.text? uri) h).join

/-- The limit in the last settings that were accepted. -/
def lastLimit (h : List Intake) : Nat :=
  ((latest Intake.settings? h).map Settings.maxNumberOfProblems).getD 1000

/-- The problems of a document in the messages that publish them, in order. -/
def publications (uri : Url) (sent : List Outbound) : List (List Diagnostic) :=
  sent.filterMap fun
    | .publish published diagnostics => if published = uri then some diagnostics else none
    | _ => none

theorem latest_append {α : Type} (view : Intake → Option α) (h k : List Intake) :
    latest view (h ++ k) = (latest view k).or (latest view h) := by
  simp [latest]

theorem latest_toList {α : Type} (view : Intake → Option α) (i : Option Intake) :
    latest view i.toList = i.bind view := by
  cases i <;> simp [latest]

theorem lastText_append (uri : Url) (h : List Intake) (i : Option Intake) :
    lastText uri (h ++ i.toList) = (i.bind (Intake.text? uri)).getD (lastText uri h) := by
  rw [lastText, latest_append, latest_toList]
  cases i.bind (Intake.text? uri) <;> simp [lastText]

/-- The last settings in a history that were accepted. -/
def lastSettings (h : List Intake) : Settings :=
  (latest Intake.settings? h).getD {}

theorem lastLimit_eq (h : List Intake) : lastLimit h = (lastSettings h).maxNumberOfProblems := by
  unfold lastLimit lastSettings
  cases latest Intake.settings? h <;> rfl

theorem lastSettings_append (h : List Intake) (i : Option Intake) :
    lastSettings (h ++ i.toList) = (i.bind Intake.settings?).getD (lastSettings h) := by
  rw [lastSettings, latest_append, latest_toList]
  cases i.bind Intake.settings? <;> simp [lastSettings]

theorem publications_append (uri : Url) (xs ys : List Outbound) :
    publications uri (xs ++ ys) = publications uri xs ++ publications uri ys := by
  simp [publications]

/-- Proposed edits publish nothing. -/
theorem publications_of_edits {uri : Url} {sent : List Outbound}
    (h : ∀ m ∈ sent, ∃ i label edit, m = .applyEdit i label edit) : publications uri sent = [] := by
  refine List.filterMap_eq_nil_iff.mpr fun m hm => ?_
  obtain ⟨i, label, edit, rfl⟩ := h m hm
  rfl

/-! ## Start-up -/

/-- The options of a start-up that succeeded are those of the start-up that was served. -/
theorem InStep.options?_eq {s : Server} (h : InStep s) (m : ClientMessage) :
    m.options? s = match m.served? s with
      | some (.start params) => params.initializationOptions
      | _ => none := by
  rcases m.run_cases s with ⟨id, name, params, reply, r, rfl, hr, -, hg, hrun⟩ |
    ⟨n, hr, hn, -, hrun⟩ | ⟨a, g, hr, -, ha, -, hrun⟩
  · obtain ⟨method, hname, -, hread⟩ := served?_request_eq_some_iff.mp hr
    have hmethod := method_of_read hread
    rw [hr]
    cases r with
    | start decoded =>
      obtain rfl : RequestMethod.start = method := hmethod
      obtain rfl : name = "initialize" := by simpa [RequestMethod.names] using mem_of_lookup hname
      obtain ⟨v, rfl, hv⟩ := present_eq_ok_iff.mp hread
      obtain ⟨decoded', hdecode, heq⟩ := Decode.exists_of_map_eq_ok hv
      cases heq
      have hs : s.session = .uninitialized := (h.uninitialized_iff (hg ▸ gate_ne_exited _)).mp hg
      simp [ClientMessage.options?, hrun, run_serve_start hs, hdecode, Except.toOption]
    | _ =>
      have hinit : name ≠ "initialize" := by
        rintro rfl
        obtain rfl : method = .start := Option.some.inj (hname.symm.trans rfl)
        cases hmethod
      simp only [ClientMessage.options?, if_neg hinit]
      split <;> rfl
  · cases m with
    | request => cases hn
    | notify => rw [hr]; rfl
  · rw [hr]
    cases m with
    | notify => rfl
    | request =>
      simp only [ClientMessage.options?, hrun]
      rcases ha with rfl | rfl | ⟨id, e, -, rfl⟩ <;> rfl

/-! ## What a notification publishes -/

/-- The problems of a document that the server would publish now. -/
def Server.shown (s : Server) (uri : Url) : List Diagnostic :=
  ((s.documents.text? uri).map fun text => s.settings.limit (diagnose text)).getD []

theorem shown_of_none {s : Server} {uri : Url} (h : s.documents.text? uri = none) :
    s.shown uri = [] := by
  simp [Server.shown, h]

theorem publications_report_self (s : Server) (uri : Url) :
    publications uri (s.report uri) = (s.documents.text? uri).toList.map fun text =>
      s.settings.limit (diagnose text) := by
  cases h : s.documents.text? uri <;> simp [Server.report, publications, h]

theorem publications_report_ne (s : Server) {uri other : Url} (h : other ≠ uri) :
    publications uri (s.report other) = [] := by
  cases hd : s.documents.text? other <;> simp [Server.report, publications, h, hd]

theorem eq_shown_of_mem_report {s : Server} {uri other : Url} {ds : List Diagnostic}
    (h : ds ∈ publications uri (s.report other)) : ds = s.shown uri := by
  by_cases hu : other = uri
  · subst hu
    rw [publications_report_self] at h
    cases hd : s.documents.text? other <;> simp_all [Server.shown]
  · rw [publications_report_ne s hu] at h
    cases h

theorem mem_uris_of_text? {d : Documents} {uri : Url} {text : String}
    (h : d.text? uri = some text) : uri ∈ d.uris := by
  obtain ⟨before, after, he, -⟩ := List.lookup_eq_some_iff.mp h
  simp [Documents.uris, he]

/-- What was sent between two servers keeps the client up to date about a document : every
publication is what the later server shows, and without one nothing has changed for the document. -/
structure Renews (uri : Url) (sent : List Outbound) (s next : Server) : Prop where
  eq_shown : ∀ ds ∈ publications uri sent, ds = next.shown uri
  of_silent : publications uri sent = [] →
    next.shown uri = s.shown uri ∧ next.documents.text? uri = s.documents.text? uri

theorem renews_of_silent {uri : Url} {sent : List Outbound} {s next : Server}
    (hsent : publications uri sent = []) (hdoc : next.documents = s.documents)
    (hset : next.settings = s.settings) : Renews uri sent s next where
  eq_shown ds hds := by
    rw [hsent] at hds
    cases hds
  of_silent _ := by simp [Server.shown, hdoc, hset]

/-- A report of a document that was written renews it, and leaves the others as they were. -/
theorem renews_report {uri other : Url} {s next : Server} {t : String}
    (hself : next.documents.text? other = some t)
    (hother : uri ≠ other → next.documents.text? uri = s.documents.text? uri)
    (hset : next.settings = s.settings) : Renews uri (next.report other) s next where
  eq_shown _ hds := eq_shown_of_mem_report hds
  of_silent hnil := by
    by_cases hu : uri = other
    · subst hu
      simp [publications_report_self, hself] at hnil
    · simp [Server.shown, hother hu, hset]

/-- New settings renew every open document. -/
theorem renews_configuration (uri : Url) (s : Server) (settings : Settings) (text : String) :
    Renews uri
      (.logMessage text ::
        s.documents.uris.flatMap ({ s with settings := settings } : Server).report)
      s { s with settings := settings } where
  eq_shown ds hds := by
    obtain ⟨m, hm, hds⟩ := List.mem_filterMap.mp hds
    rcases List.mem_cons.mp hm with rfl | hm
    · cases hds
    · obtain ⟨other, -, hm⟩ := List.mem_flatMap.mp hm
      exact eq_shown_of_mem_report (List.mem_filterMap.mpr ⟨m, hm, hds⟩)
  of_silent hnil := by
    cases hd : s.documents.text? uri with
    | none => exact ⟨by simp [Server.shown, hd], rfl⟩
    | some found =>
      -- An open document is among those whose problems are published again.
      exfalso
      have hpub : settings.limit (diagnose found) ∈
          publications uri (({ s with settings := settings } : Server).report uri) := by
        simp [publications_report_self, hd]
      obtain ⟨m, hm, hds⟩ := List.mem_filterMap.mp hpub
      have hmem : m ∈ s.documents.uris.flatMap ({ s with settings := settings } : Server).report :=
        List.mem_flatMap.mpr ⟨uri, mem_uris_of_text? hd, hm⟩
      have := List.filterMap_eq_nil_iff.mp hnil m (List.mem_cons_of_mem _ hmem)
      simp [this] at hds

/-- Every notification renews every document. -/
theorem Notice.renews (n : Notice) (s : Server) (uri : Url) :
    Renews uri (n.sends s) s (n.after s) := by
  cases n with
  | initialized => exact renews_of_silent rfl rfl rfl
  | didOpen params =>
    refine renews_report (t := params.text) ?_ (fun hu => ?_) rfl
    · simp [Notice.after, Documents.text?_put]
    · simp [Notice.after, Documents.text?_put, hu]
  | didChange params =>
    cases hl : params.fragments.getLast? with
    | none =>
      have hnil : params.fragments = [] := List.getLast?_eq_none_iff.mp hl
      exact renews_of_silent (by simp [Notice.sends, hnil, publications])
        (by simp [Notice.after, hnil, Documents.change?]) rfl
    | some text =>
      have hne : params.fragments ≠ [] := by
        intro hnil
        simp [hnil] at hl
      simp only [Notice.sends, if_neg hne]
      refine renews_report (t := text) ?_ (fun hu => ?_) rfl
      · simp [Notice.after, Documents.change?, hl, Documents.text?_put]
      · simp [Notice.after, Documents.change?, hl, Documents.text?_put, hu]
  | didSave other =>
    exact ⟨fun ds hds => eq_shown_of_mem_report hds, fun _ => ⟨rfl, rfl⟩⟩
  | didClose other =>
    constructor
    · intro ds hds
      by_cases hu : other = uri
      · have hnil : ds = [] := by simpa [Notice.sends, publications, hu] using hds
        rw [hnil, shown_of_none]
        simp [Notice.after, Documents.text?_remove, hu]
      · simp [Notice.sends, publications, hu] at hds
    · intro hnil
      have hu : uri ≠ other := by
        rintro rfl
        simp [Notice.sends, publications] at hnil
      simp [Server.shown, Notice.after, Documents.text?_remove, hu]
  | didChangeConfiguration v =>
    cases hv : Settings.accepted? v with
    | none =>
      exact renews_of_silent (by simp [Notice.sends, hv, publications]) rfl
        (by simp [Notice.after, hv])
    | some settings =>
      simpa [Notice.sends, Notice.after, hv] using renews_configuration uri s settings _
  | didChangeWatchedFiles count => exact renews_of_silent rfl rfl rfl

/-- A notification gives the documents the texts that it brings. -/
theorem Notice.text?_after (n : Notice) (s : Server) (uri : Url) :
    (n.after s).documents.text? uri =
      ((Intake.notice n).text? uri).getD (s.documents.text? uri) := by
  cases n with
  | didOpen params =>
    by_cases hu : params.uri = uri
    · simp [Notice.after, Intake.text?, Documents.text?_put, hu]
    · simp [Notice.after, Intake.text?, Documents.text?_put, hu, Ne.symm hu]
  | didChange params =>
    cases hl : params.fragments.getLast? with
    | none => simp [Notice.after, Intake.text?, Documents.change?, hl]
    | some text =>
      by_cases hu : params.uri = uri
      · simp [Notice.after, Intake.text?, Documents.change?, hl, Documents.text?_put, hu]
      · simp [Notice.after, Intake.text?, Documents.change?, hl, Documents.text?_put, hu,
          Ne.symm hu]
  | didClose other =>
    by_cases hu : other = uri
    · simp [Notice.after, Intake.text?, Documents.text?_remove, hu]
    · simp [Notice.after, Intake.text?, Documents.text?_remove, hu, Ne.symm hu]
  | _ => rfl

/-- A notification leaves the settings that it brings, if they are accepted. -/
theorem Notice.settings_after (n : Notice) (s : Server) :
    (n.after s).settings = ((Intake.notice n).settings?).getD s.settings := by
  cases n <;> rfl

/-! ## The invariant -/

/-- Store, settings and what the client was sent about a document agree with what was taken in, and
before start-up the document is not open. -/
structure Tracks (uri : Url) (h : List Intake) (sent : List Outbound) (s : Server) : Prop where
  inStep : InStep s
  text_eq : s.documents.text? uri = lastText uri h
  settings_eq : s.settings = lastSettings h
  text_of_uninitialized : s.gate = .uninitialized → s.documents.text? uri = none
  published : (publications uri sent).getLast? = some (s.shown uri) ∨
    publications uri sent = [] ∧ s.documents.text? uri = none

theorem tracks_fresh (uri : Url) : Tracks uri [] [] {} where
  inStep := inStep_fresh
  text_eq := rfl
  settings_eq := rfl
  text_of_uninitialized _ := rfl
  published := Or.inr ⟨rfl, rfl⟩

/-- What renews a document leaves its last publication up to date. -/
theorem published_of_renews {uri : Url} {sent news : List Outbound} {s next : Server}
    (hr : Renews uri news s next)
    (h : (publications uri sent).getLast? = some (s.shown uri) ∨
      publications uri sent = [] ∧ s.documents.text? uri = none) :
    (publications uri (sent ++ news)).getLast? = some (next.shown uri) ∨
      publications uri (sent ++ news) = [] ∧ next.documents.text? uri = none := by
  rw [publications_append]
  cases hl : (publications uri news).getLast? with
  | none =>
    have hnil : publications uri news = [] := List.getLast?_eq_none_iff.mp hl
    obtain ⟨hshown, htext⟩ := hr.of_silent hnil
    rw [hnil, List.append_nil, hshown, htext]
    exact h
  | some ds =>
    refine Or.inl ?_
    rw [List.getLast?_append, hl, Option.some_or, hr.eq_shown ds (List.mem_of_getLast? hl)]

section Step

variable {uri : Url} {h : List Intake} {sent : List Outbound} {s : Server}

/-- The invariant goes on with what a step takes in and sends. -/
theorem Tracks.append (ht : Tracks uri h sent s) {next : Server} {news : List Outbound}
    {i : Option Intake} (hstep : InStep next)
    (htext : next.documents.text? uri = (i.bind (Intake.text? uri)).getD (s.documents.text? uri))
    (hset : next.settings = (i.bind Intake.settings?).getD s.settings)
    (hgate : next.gate = .uninitialized → next.documents.text? uri = none)
    (hr : Renews uri news s next) : Tracks uri (h ++ i.toList) (sent ++ news) next where
  inStep := hstep
  text_eq := by rw [htext, ht.text_eq, lastText_append]
  settings_eq := by rw [hset, ht.settings_eq, lastSettings_append]
  text_of_uninitialized := hgate
  published := published_of_renews hr ht.published

/-- The invariant goes on where nothing is taken in. -/
theorem Tracks.append_nothing (ht : Tracks uri h sent s) {next : Server} {news : List Outbound}
    (hstep : InStep next) (hdoc : next.documents = s.documents) (hset : next.settings = s.settings)
    (hgate : next.gate = .uninitialized → s.gate = .uninitialized)
    (hnews : publications uri news = []) :
    Tracks uri (h ++ (none : Option Intake).toList) (sent ++ news) next :=
  ht.append hstep (by rw [hdoc]; rfl) (by rw [hset]; rfl)
    (fun hg => by rw [hdoc]; exact ht.text_of_uninitialized (hgate hg))
      (renews_of_silent hnews hdoc hset)

theorem uninitialized_of_closes {g next : Gate} (h : g.Closes next) (hn : next = .uninitialized) :
    g = .uninitialized := by
  subst hn
  rcases h with h | h | ⟨-, h⟩
  · exact h.symm
  · cases h
  · cases h

/-- Every message keeps the invariant. -/
theorem Tracks.run (ht : Tracks uri h sent s) (m : ClientMessage) :
    Tracks uri (h ++ (m.intake? s).toList) (sent ++ (m.run s).sent) (m.run s).server := by
  have hnext := ht.inStep.run m
  have hoptions := ht.inStep.options?_eq m
  rcases m.run_cases s with ⟨id, _, _, reply, r, -, hr, hn, hg, hrun⟩ | ⟨n, hr, hn, hg, hrun⟩ |
    ⟨a, g, hr, hn, -, hg, hrun⟩
  · rw [hr] at hoptions
    rcases ht.inStep.serve_cases hg with ⟨params, rfl, hs⟩ | ⟨rfl, hs⟩ | ⟨hshut, hmethod, hg, hs⟩
    · -- Start-up : the settings may change, but no document is open yet.
      have hnone := ht.text_of_uninitialized hg
      have hintake : m.intake? s = params.initializationOptions.map .options := by
        simp [ClientMessage.intake?, hn, hoptions]
      rw [hintake]
      rw [hrun, run_serve_start hs] at hnext ⊢
      refine ht.append hnext ?_ ?_ (by simp) ⟨by simp [publications], fun _ => ?_⟩
      · cases params.initializationOptions <;> rfl
      · cases params.initializationOptions <;> rfl
      · simp [Server.shown, hnone]
    · have hintake : m.intake? s = none := by simp [ClientMessage.intake?, hn, hoptions]
      rw [hintake]
      rw [hrun, run_serve_shutdown hs] at hnext ⊢
      exact ht.append_nothing hnext rfl rfl (by simp) rfl
    · have hintake : m.intake? s = none := by
        cases r with
        | start params => cases hmethod
        | _ => simp [ClientMessage.intake?, hn, hoptions]
      obtain ⟨answer, next, sent', log, hserve, -, hedits, -⟩ :=
        run_serve_of_feature hg hs hmethod hshut id reply
      rw [hintake]
      rw [hrun, hserve] at hnext ⊢
      exact ht.append_nothing hnext rfl rfl (fun h => h) (publications_of_edits hedits)
  · have hintake : m.intake? s = some (.notice n) := by simp [ClientMessage.intake?, hn]
    obtain ⟨log, hact⟩ := n.exists_run hg (ht.inStep.of_initialized hg)
    rw [hintake]
    rw [hrun, hact] at hnext ⊢
    have hgate : (n.after s).gate = .initialized := by
      cases n <;> exact hg
    exact ht.append hnext (n.text?_after s uri) (n.settings_after s) (by simp [hgate])
      (n.renews s uri)
  · have hintake : m.intake? s = none := by simp [ClientMessage.intake?, hn, hoptions, hr]
    rw [hintake]
    rw [hrun] at hnext ⊢
    exact ht.append_nothing hnext rfl rfl (uninitialized_of_closes hg) rfl

/-- Every run keeps the invariant. -/
theorem Tracks.serverAfter (ht : Tracks uri h sent s) (ms : List ClientMessage) :
    Tracks uri (h ++ history s ms) (sent ++ sentIn s (ms.map ClientMessage.step))
      (serverAfter s (ms.map ClientMessage.step)) := by
  induction ms generalizing h sent s with
  | nil => simpa [history, sentIn, runSteps, Majuscule.serverAfter] using ht
  | cons m ms ih =>
    have hnext := ih (ht.run m)
    rw [List.append_assoc, List.append_assoc] at hnext
    exact hnext

end Step

/-- After every run through the gate, the client was sent last for a document the problems of its
last text, as many as the last settings let through; and if the document has no text, then
nothing or the empty list. -/
theorem publications_getLast? (uri : Url) (ms : List ClientMessage) :
    match lastText uri (history {} ms) with
    | some text =>
      (publications uri (sentIn {} (ms.map ClientMessage.step))).getLast? =
        some ((diagnose text).take (lastLimit (history {} ms)))
    | none =>
      ∀ ds ∈ (publications uri (sentIn {} (ms.map ClientMessage.step))).getLast?, ds = [] := by
  have ht := (tracks_fresh uri).serverAfter ms
  rw [List.nil_append, List.nil_append] at ht
  rw [← ht.text_eq, lastLimit_eq, ← ht.settings_eq]
  split
  · next text htext =>
    rcases ht.published with hlast | ⟨-, hnone⟩
    · rw [hlast]
      simp [Server.shown, htext, Settings.limit]
    · cases htext.symm.trans hnone
  · next htext =>
    rcases ht.published with hlast | ⟨hnil, -⟩
    · simp [hlast, shown_of_none htext]
    · simp [hnil]

end Majuscule
