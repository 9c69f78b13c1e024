import Majuscule.Proofs.Server.Frame

/-!
# What notifications do

While gate and session are at work, a notification is known by the server it leaves (`Notice.after`)
and by the messages it sends (`Notice.sends`); `Notice.exists_run` says that the handler does just
this, whatever it logs. The problems of an open document are published in one message
(`Server.report`), and those of several documents one after another.
-/

namespace Majuscule

open Act

/-- The message that publishes the problems of a document, if it is open. -/
def Server.report (s : Server) (uri : Url) : List Outbound :=
  (s.documents.text? uri).toList.map fun text => .publish uri (s.settings.limit (diagnose text))

/-- The server after a notification. -/
def Notice.after (s : Server) : Notice → Server
  | didOpen params => { s with documents := s.documents.put params.uri params.text }
  | didChange params =>
    { s with documents := (s.documents.change? params.uri params.fragments).getD s.documents }
  | didClose uri => { s with documents := s.documents.remove uri }
  | didChangeConfiguration v => { s with settings := (Settings.accepted? v).getD s.settings }
  | _ => s

/-- What a notification sends. -/
def Notice.sends (s : Server) : Notice → List Outbound
  | initialized => [.logMessage "capslock-lsp ready"]
  | n@(didOpen params) => (n.after s).report params.uri
  | n@(didChange params) => if params.fragments = [] then [] else (n.after s).report params.uri
  | didSave uri => s.report uri
  | didClose uri => [.publish uri []]
  | n@(didChangeConfiguration v) =>
    if (Settings.accepted? v).isSome then
      .logMessage "capslock-lsp settings updated" :: s.documents.uris.flatMap (n.after s).report
    else []
  | didChangeWatchedFiles _ => []

theorem exists_run_validate {s : Server} (hg : s.gate = .initialized) (uri : Url) :
    ∃ log, (validate uri).run s = ⟨(), s, s.report uri, log⟩ := by
  cases h : s.documents.text? uri with
  | none => exact ⟨_, by simp [validate, h, Server.report]; rfl⟩
  | some text =>
    exact ⟨_, by simp [validate, h, Server.report, publishProblems, hg, Gate.lets,
      Gate.isOpen]; rfl⟩

theorem exists_run_validateAll {s : Server} (hg : s.gate = .initialized) (uris : List Url) :
    ∃ log, (validateAll uris).run s = ⟨(), s, uris.flatMap s.report, log⟩ := by
  induction uris with
  | nil => exact ⟨[], rfl⟩
  | cons uri rest ih =>
    obtain ⟨log, hlog⟩ := exists_run_validate hg uri
    obtain ⟨log', hlog'⟩ := ih
    exact ⟨log ++ log', by simp [validateAll, hlog, hlog']⟩

/-- While gate and session are at work, a notification leaves the server `Notice.after` and
sends `Notice.sends`. -/
theorem Notice.exists_run {s : Server} (hg : s.gate = .initialized) (hs : s.session = .initialized)
    (n : Notice) : ∃ log, n.act.run s = ⟨(), n.after s, n.sends s, log⟩ := by
  cases n with
  | initialized => exact ⟨[.ready], by simp [Notice.act, Notice.after, Notice.sends, Gate.lets, hg]⟩
  | didOpen params =>
    obtain ⟨log, hlog⟩ := exists_run_validate (s := (Notice.didOpen params).after s) hg params.uri
    refine ⟨.opened params.uri params.text.utf8ByteSize :: log, ?_⟩
    rw [Notice.act, Majuscule.didOpen, run_whileAtWork hs]
    simp only [Notice.after] at hlog
    simp [Notice.after, Notice.sends, hlog]
  | didChange params =>
    rw [Notice.act, Majuscule.didChange, run_whileAtWork hs]
    cases hc : s.documents.change? params.uri params.fragments with
    | none =>
      have hnil : params.fragments = [] := by simpa [Documents.change?] using hc
      exact ⟨[.changed params.uri params.fragments.length], by
        simp [Documents.change?, Notice.after, Notice.sends, hnil]⟩
    | some documents =>
      have hne : params.fragments ≠ [] := by
        rintro hnil
        simp [Documents.change?, hnil] at hc
      obtain ⟨log, hlog⟩ :=
        exists_run_validate (s := { s with documents := documents }) hg params.uri
      exact ⟨.changed params.uri params.fragments.length :: log, by
        simp [hc, Notice.after, Notice.sends, hne, hlog]⟩
  | didSave uri =>
    obtain ⟨log, hlog⟩ := exists_run_validate hg uri
    refine ⟨.saved uri :: log, ?_⟩
    rw [Notice.act, Majuscule.didSave, run_whileAtWork hs]
    simp [Notice.after, Notice.sends, hlog]
  | didClose uri =>
    refine ⟨[.closed uri], ?_⟩
    rw [Notice.act, Majuscule.didClose, run_whileAtWork hs]
    simp [Notice.after, Notice.sends, Gate.lets, Gate.isOpen, hg]
  | didChangeConfiguration v =>
    rw [Notice.act, Majuscule.didChangeConfiguration, run_whileAtWork hs]
    cases hv : Settings.accepted? v with
    | none => exact ⟨settingsEvents v, by simp [run_applySettings, hv, Notice.after, Notice.sends]⟩
    | some settings =>
      obtain ⟨log, hlog⟩ :=
        exists_run_validateAll (s := { s with settings := settings }) hg s.documents.uris
      have hlets : s.gate.lets (.logMessage "capslock-lsp settings updated") = true := by
        simp [Gate.lets, hg]
      exact ⟨settingsEvents v ++ log, by
        simp [run_applySettings, hv, Notice.after, Notice.sends, hlog, hlets]⟩
  | didChangeWatchedFiles count =>
    exact ⟨[.watchedFiles count], by simp [Notice.act, Notice.after, Notice.sends]⟩

end Majuscule
