import Majuscule.Proofs.Server.Delivery
import Majuscule.Proofs.Server.Execute
import Mathlib.Data.List.Forall2

/-!
# Commands and what the client replies

In the middle of a command the server waits for the client, which may reply anything at all. This
file says that nothing depends on it. What a command comes to is told by its name and its arguments
alone (`Executes`). Two runs whose messages differ in the client's replies alone
(`ClientMessage.SameButReply`) go the same way step by step, but for the log
(`sameButLog_runSteps`).

The edits that are proposed in a run are numbered from zero on, without a gap
(`InStep.numbersFrom_sentIn`), since a number is used up just when an edit is sent under it.
`commands_withstand_replies` puts the three together.
-/

namespace Majuscule

open Act

/-! ## Replies -/

/-- The messages differ in nothing but what the client replies in their course. -/
inductive ClientMessage.SameButReply : ClientMessage → ClientMessage → Prop where
  | request (id : RequestId) (method : String) (params : Option Json) (reply reply' : ClientReply) :
    SameButReply (.request id method params reply) (.request id method params reply')
  | notify (method : String) (params : Option Json) :
    SameButReply (.notify method params) (.notify method params)

/-- The outcomes differ in nothing but the log. -/
structure Outcome.SameButLog {α : Type} (o o' : Outcome α) : Prop where
  value_eq : o.value = o'.value
  server_eq : o.server = o'.server
  sent_eq : o.sent = o'.sent

theorem Outcome.SameButLog.refl {α : Type} (o : Outcome α) : o.SameButLog o :=
  ⟨rfl, rfl, rfl⟩

/-- However the client replies, a request is finished with the same answer. -/
theorem sameButLog_finish (p : Progress) (reply reply' : ClientReply) (s : Server) :
    ((p.finish reply).run s).SameButLog ((p.finish reply').run s) := by
  cases p <;> exact ⟨rfl, rfl, rfl⟩

theorem sameButLog_answerRequest (id : RequestId) (method : String) (params : Option Json)
    (reply reply' : ClientReply) (s : Server) :
    ((answerRequest id method params reply).run s).SameButLog
      ((answerRequest id method params reply').run s) := by
  simp only [answerRequest, run_bind]
  -- The request has come as far in both runs before the client is heard.
  generalize (dispatchRequest method params).run s = o
  cases o.value with
  | none => exact .refl _
  | some p =>
    obtain ⟨hvalue, hserver, hsent⟩ := sameButLog_finish p reply reply' o.server
    exact ⟨by simp [hvalue], by simp [hserver], by simp [hsent]⟩

/-- One message goes the same way whatever the client replies. -/
theorem sameButLog_run {m m' : ClientMessage} (h : m.SameButReply m') (s : Server) :
    (m.run s).SameButLog (m'.run s) := by
  cases h with
  | notify method params => exact .refl _
  | request id method params reply reply' =>
    cases hg : s.gate with
    | exited =>
      rw [run_of_exited _ hg, run_of_exited _ hg]
      exact .refl _
    | _ =>
      obtain ⟨hvalue, hserver, hsent⟩ := sameButLog_answerRequest id method params reply reply' s
      constructor
      · simpa [ClientMessage.run, ClientMessage.step, Step.act, hg] using hvalue
      · simpa [ClientMessage.run, ClientMessage.step, Step.act, hg] using hserver
      · simpa [ClientMessage.run, ClientMessage.step, Step.act, hg] using hsent

/-- A whole run goes the same way whatever the client replies. -/
theorem sameButLog_runSteps {ms ms' : List ClientMessage}
    (h : List.Forall₂ ClientMessage.SameButReply ms ms') (s : Server) :
    List.Forall₂ Outcome.SameButLog (runSteps s (ms.map ClientMessage.step))
      (runSteps s (ms'.map ClientMessage.step)) := by
  induction h generalizing s with
  | nil => exact .nil
  | @cons m m' ms ms' hm _ ih =>
    have hrun := sameButLog_run hm s
    have hrest : List.Forall₂ Outcome.SameButLog
        (runSteps (m.run s).server (ms.map ClientMessage.step))
        (runSteps (m'.run s).server (ms'.map ClientMessage.step)) := by
      rw [hrun.server_eq]
      exact ih _
    exact .cons hrun hrest

/-! ## Numbers -/

/-- The numbers of the edits among some messages. -/
def editIds (sent : List Outbound) : List Nat :=
  sent.filterMap Outbound.id?

theorem editIds_append (xs ys : List Outbound) : editIds (xs ++ ys) = editIds xs ++ editIds ys :=
  List.filterMap_append

/-- A notification proposes no edit. -/
theorem Delivers.editIds_eq_nil {s next : Server} {n : Notice} {sent : List Outbound}
    (h : Delivers s next n sent) : editIds sent = [] := by
  cases h with
  | newSettings =>
    refine List.filterMap_eq_nil_iff.mpr fun m hm => ?_
    rcases List.mem_cons.mp hm with rfl | hm
    · rfl
    · obtain ⟨uri, -, rfl⟩ := List.mem_map.mp hm
      rfl
  | _ => rfl

/-- The edits that were sent have the numbers from that of one server up to that of another. -/
def NumbersFrom (s : Server) (sent : List Outbound) (next : Server) : Prop :=
  ∃ count, editIds sent = List.range' s.nextRequest count ∧ next.nextRequest = s.nextRequest + count

theorem numbersFrom_of_silent {s next : Server} {sent : List Outbound} (hsent : editIds sent = [])
    (hnext : next.nextRequest = s.nextRequest) : NumbersFrom s sent next :=
  ⟨0, hsent, hnext⟩

theorem NumbersFrom.append {s between next : Server} {xs ys : List Outbound}
    (hx : NumbersFrom s xs between) (hy : NumbersFrom between ys next) :
    NumbersFrom s (xs ++ ys) next := by
  obtain ⟨k, hxs, hk⟩ := hx
  obtain ⟨l, hys, hl⟩ := hy
  refine ⟨k + l, ?_, by omega⟩
  rw [editIds_append, hxs, hys, hk, List.range'_append_1]

theorem Executes.numbersFrom {s next : Server} {params : ExecuteParams} {answer : Answer}
    {sent : List Outbound} (h : Executes s params answer next sent) : NumbersFrom s sent next := by
  cases h with
  | ignored => exact numbersFrom_of_silent rfl rfl
  | proposed _ _ hasks => exact ⟨1, by rw [editIds, List.filterMap_cons_some hasks.id_eq]; rfl, rfl⟩
  | refused => exact numbersFrom_of_silent rfl rfl

/-- A message uses up as many numbers as it proposes edits. -/
theorem InStep.numbersFrom_run {s : Server} (h : InStep s) (m : ClientMessage) :
    NumbersFrom s (m.run s).sent (m.run s).server := by
  rcases m.run_cases s with ⟨id, _, _, reply, r, -, -, -, hg, hrun⟩ | ⟨n, -, -, hg, hrun⟩ |
    ⟨a, g, -, -, -, -, hrun⟩
  · rw [hrun]
    rcases h.serve_cases hg with ⟨params, rfl, hs⟩ | ⟨rfl, hs⟩ | ⟨hshut, hr, hg, hs⟩
    · rw [run_serve_start hs]
      exact numbersFrom_of_silent rfl rfl
    · rw [run_serve_shutdown hs]
      exact numbersFrom_of_silent rfl rfl
    · cases r with
      | start params => cases hr
      | shutdown => exact absurd rfl hshut
      | completion place =>
        rw [run_serve_of_finished hg hr hshut (run_complete hs place) id reply]
        exact numbersFrom_of_silent rfl rfl
      | resolve item =>
        rw [run_serve_of_finished hg hr hshut (run_resolveItem hs item) id reply]
        exact numbersFrom_of_silent rfl rfl
      | codeAction params =>
        rw [run_serve_of_finished hg hr hshut (run_offerFixes hs params) id reply]
        exact numbersFrom_of_silent rfl rfl
      | execute params =>
        obtain ⟨answer, next, sent, log, hserve, hexecutes⟩ :=
          exists_run_serve_execute hg hs params id reply
        rw [hserve]
        exact hexecutes.numbersFrom
  · obtain ⟨log, hact⟩ := n.exists_run hg (h.of_initialized hg)
    rw [hrun, hact]
    exact numbersFrom_of_silent (n.delivers s).editIds_eq_nil (by cases n <;> rfl)
  · rw [hrun]
    exact numbersFrom_of_silent rfl rfl

/-- Over a run, the edits are numbered one after another. -/
theorem InStep.numbersFrom_sentIn {s : Server} (h : InStep s) (ms : List ClientMessage) :
    NumbersFrom s (sentIn s (ms.map ClientMessage.step))
      (Majuscule.serverAfter s (ms.map ClientMessage.step)) := by
  induction ms generalizing s with
  | nil => exact numbersFrom_of_silent rfl rfl
  | cons m ms ih => exact (h.numbersFrom_run m).append (ih (h.run m))

/-! ## Any run, any client -/

/-- In every run, a command with parameters that decode comes to what `Executes` says while the gate
is at work, whatever the client replies to it. If the client replied differently throughout, every
step would be answered the same, send the same and leave the same server. And the edits that are
proposed are numbered 0, 1, 2 and so on. -/
theorem commands_withstand_replies (ms ms' : List ClientMessage)
    (h : List.Forall₂ ClientMessage.SameButReply ms ms') :
    (∀ before id v reply after params,
      ms = before ++ .request id "workspace/executeCommand" (some v) reply :: after →
      (serverAfter {} (before.map ClientMessage.step)).gate = .initialized →
      ExecuteParams.decode v = .ok params →
        ∃ answer next sent log,
          (ClientMessage.request id "workspace/executeCommand" (some v) reply).run
              (serverAfter {} (before.map ClientMessage.step)) =
            ⟨.reply id answer, next, sent, log⟩ ∧
          Executes (serverAfter {} (before.map ClientMessage.step)) params answer next sent) ∧
    List.Forall₂ Outcome.SameButLog (runSteps {} (ms.map ClientMessage.step))
      (runSteps {} (ms'.map ClientMessage.step)) ∧
    editIds (sentIn {} (ms.map ClientMessage.step)) =
      List.range (editIds (sentIn {} (ms.map ClientMessage.step))).length := by
  refine ⟨?_, sameButLog_runSteps h {}, ?_⟩
  · rintro before id v reply after params - hg hdecode
    have hs := (inStep_fresh.serverAfter before).of_initialized hg
    rw [run_request_of_served (served?_execute hg hdecode id reply)]
    exact exists_run_serve_execute hg hs params id reply
  · obtain ⟨count, hids, -⟩ := inStep_fresh.numbersFrom_sentIn ms
    rw [hids, List.length_range', List.range_eq_range']

/-- The parameters of the command for the first word of a document, with the range
in its two forms mixed. -/
def executeJson (uri : String) : Json :=
  .obj [("command", .str "myToLowerCase"), ("arguments", .arr [.str uri,
    .arr [.obj [("line", .int 0), ("character", .int 0)], .arr [.int 0, .int 2]]])]

/-- A client starts the server and sends the command twice, and in between
once for what is no URL. -/
def commandMessages (reply : ClientReply) : List ClientMessage :=
  [.request (.number 1) "initialize" (some (.obj [("capabilities", .obj [])])) reply,
    .request (.number 2) "workspace/executeCommand" (some (executeJson "file:///a")) reply,
    .request (.number 3) "workspace/executeCommand" (some (executeJson "a")) reply,
    .request (.number 4) "workspace/executeCommand" (some (executeJson "file:///b")) reply]

/-- A client that makes the edits and one that answers with an error see the same, and the refused
command uses up no number. -/
theorem commands_withstand_replies_of_error :
    List.Forall₂ ClientMessage.SameButReply
      (commandMessages (.result (.obj [("applied", .bool true)])))
      (commandMessages (.error ⟨-32603, "no", none⟩)) ∧
    (∃ answer next sent log,
      (ClientMessage.request (.number 2) "workspace/executeCommand" (some (executeJson "file:///a"))
          (.result (.obj [("applied", .bool true)]))).run
          { gate := .initialized, session := .initialized } =
        ⟨.reply (.number 2) answer, next, sent, log⟩ ∧
      Executes { gate := .initialized, session := .initialized }
        ⟨"myToLowerCase", [.str "file:///a",
          .arr [.obj [("line", .int 0), ("character", .int 0)], .arr [.int 0, .int 2]]]⟩
        answer next sent) ∧
    List.Forall₂ Outcome.SameButLog
      (runSteps {} ((commandMessages (.result (.obj [("applied", .bool true)]))).map
        ClientMessage.step))
      (runSteps {} ((commandMessages (.error ⟨-32603, "no", none⟩)).map ClientMessage.step)) ∧
    editIds (sentIn {} ((commandMessages (.result (.obj [("applied", .bool true)]))).map
      ClientMessage.step)) = [0, 1] := by
  have hsame : List.Forall₂ ClientMessage.SameButReply
      (commandMessages (.result (.obj [("applied", .bool true)])))
      (commandMessages (.error ⟨-32603, "no", none⟩)) :=
    .cons (.request _ _ _ _ _) (.cons (.request _ _ _ _ _)
      (.cons (.request _ _ _ _ _) (.cons (.request _ _ _ _ _) .nil)))
  obtain ⟨hexecutes, hruns, hids⟩ := commands_withstand_replies _ _ hsame
  refine ⟨hsame, ?_, hruns, hids.trans rfl⟩
  exact hexecutes [.request (.number 1) "initialize" (some (.obj [("capabilities", .obj [])]))
    (.result (.obj [("applied", .bool true)]))] (.number 2)
      (executeJson "file:///a") _ _ _ rfl rfl rfl

end Majuscule
