import Majuscule.Proofs.Command
import Majuscule.Proofs.Server.InStep

/-!
# What a command comes to

A client sends a command by a name and arguments, and these alone decide what comes of it
(`Executes`). A command that the server does not have is ignored. The one that it has is refused
unless its arguments denote a document and a range. Then one message goes out, under the next
number : it asks the client to put `foo` in the place of that range of that document and to change
nothing else (`Outbound.AsksToReplace`).
-/

namespace Majuscule

open Act Command

/-! ## The message that is sent -/

/-- The message asks the client under a number to put `foo` in the place of a range of one document,
and to change nothing else. -/
structure Outbound.AsksToReplace (id : Nat) (uri : Url) (range : Range) (m : Outbound) : Prop where
  id_eq : m.id? = some id
  method_eq : m.method = "workspace/applyEdit"
  params_eq : ∃ edit, ReplacesRange uri range "foo" edit ∧
    m.params = .obj [("label", .str "To Lower Case"), ("edit", edit)]

theorem asksToReplace_applyEdit (id : Nat) (uri : Url) (range : Range) :
    Outbound.AsksToReplace id uri range
      (.applyEdit id (lowerCase uri range).title (lowerCase uri range).edit) :=
  ⟨rfl, rfl, _, replacesRange_edit uri range, rfl⟩

/-! ## What comes of a command -/

/-- What a command comes to on a server : its answer, the server afterwards, and what is sent. -/
inductive Executes (s : Server) (params : ExecuteParams) :
    Answer → Server → List Outbound → Prop where
  /-- The server has no such command. -/
  | ignored (h : params.command ≠ "myToLowerCase") : Executes s params (.ok .null) s []
  /-- The client is asked for the edit under the next number. -/
  | proposed {uri : Url} {range : Range} {proposal : Outbound}
    (h : params.command = "myToLowerCase") (htarget : DenotesTarget params.arguments uri range)
    (hasks : proposal.AsksToReplace s.nextRequest uri range) :
    Executes s params (.ok .null) { s with nextRequest := s.nextRequest + 1 } [proposal]
  /-- The arguments denote no document and range. -/
  | refused {e : RpcError} (h : params.command = "myToLowerCase")
    (hnone : ∀ uri range, ¬DenotesTarget params.arguments uri range) (hcode : e.code = -32602) :
    Executes s params (.error e) s []

/-- While the gate is at work, a command with parameters that decode is served. -/
theorem served?_execute {s : Server} (hg : s.gate = .initialized) {v : Json}
    {params : ExecuteParams} (hv : ExecuteParams.decode v = .ok params) (id : RequestId)
    (reply : ClientReply) :
    (ClientMessage.request id "workspace/executeCommand" (some v) reply).served? s =
      some (.execute params) := by
  refine served?_of_decode (m := .execute) rfl (by simp) hg ?_
  simp only [RequestMethod.decode, hv]
  rfl

/-- While gate and session are at work, the client is asked to replace what the arguments denote. -/
theorem exists_run_serve_of_target {s : Server} (hg : s.gate = .initialized)
    (hs : s.session = .initialized) (params : ExecuteParams)
    (hname : params.command = "myToLowerCase") {uri : Url} {range : Range}
    (htarget : DenotesTarget params.arguments uri range) (id : RequestId) (reply : ClientReply) :
    ∃ proposal log, ((Request.execute params).serve id reply).run s =
        ⟨.reply id (.ok .null), { s with nextRequest := s.nextRequest + 1 }, [proposal], log⟩ ∧
      proposal.AsksToReplace s.nextRequest uri range := by
  have hparse : parse params.command params.arguments = .ok (some (.lowerCase uri range)) := by
    rw [hname]
    exact parse_eq_some_iff.mpr htarget
  exact ⟨_, _, run_serve_execute_of_known hg hs hparse id reply,
    asksToReplace_applyEdit _ uri range⟩

/-- While gate and session are at work, a command comes to this, whatever the client replies. -/
theorem exists_run_serve_execute {s : Server} (hg : s.gate = .initialized)
    (hs : s.session = .initialized) (params : ExecuteParams) (id : RequestId)
    (reply : ClientReply) :
    ∃ answer next sent log,
      ((Request.execute params).serve id reply).run s = ⟨.reply id answer, next, sent, log⟩ ∧
        Executes s params answer next sent := by
  by_cases hname : params.command = "myToLowerCase"
  · by_cases htarget : ∃ uri range, DenotesTarget params.arguments uri range
    · obtain ⟨uri, range, htarget⟩ := htarget
      obtain ⟨proposal, log, hrun, hasks⟩ :=
        exists_run_serve_of_target hg hs params hname htarget id reply
      exact ⟨_, _, _, log, hrun, .proposed hname htarget hasks⟩
    · have hnone : ∀ uri range, ¬DenotesTarget params.arguments uri range :=
        fun uri range h => htarget ⟨uri, range, h⟩
      obtain ⟨reason, hparse, -⟩ := exists_parse_eq_error hnone
      rw [← hname] at hparse
      have hact : (Request.execute params).act.run s = _ := run_execute_of_refused hs hparse
      have hrun := run_serve_of_finished hg rfl (by simp) hact id reply
      exact ⟨_, _, _, _, hrun, .refused hname hnone rfl⟩
  · have hparse := parse_of_ne hname params.arguments
    have hact : (Request.execute params).act.run s = _ := run_execute_of_unknown hs hparse
    exact ⟨_, _, _, _, run_serve_of_finished hg rfl (by simp) hact id reply, .ignored hname⟩

end Majuscule
