import Majuscule.Proofs.Protocol.CompletionItem
import Majuscule.Proofs.Server.InStep

/-!
# The details of a completion item

A client asks for the details of an item by sending the whole item, and the server answers with the
whole item. What it adds depends on the data of the item and on nothing else : for each of the two
tags a detail and a documentation, and for any other data nothing (`CompletionItem.ComesBackAs`).
The other members, the data among them, come back as they were.

The answer is itself an item that the client may send, and since it is read back as it was written,
it is answered by itself (`resolved_item_comes_back`).
-/

namespace Majuscule

open Act Decode Record

namespace CompletionItem

/-! ## What is added -/

/-- An item stands for a candidate if its data is the tag of the candidate, as an integer. -/
theorem candidate?_eq_some_iff {x : CompletionItem} {c : Candidate} :
    x.candidate? = some c ↔ x.data = some (.nat c.tag) := by
  have hdata : ∀ v, Candidate.ofData? v = some c ↔ v = .nat c.tag := by
    intro v
    unfold Candidate.ofData?
    split <;> cases c <;> simp_all [Candidate.tag, Json.nat]
  rw [candidate?, Option.bind_eq_some_iff]
  constructor
  · rintro ⟨v, hv, hc⟩
    rw [hv, (hdata v).mp hc]
  · intro h
    exact ⟨_, h, (hdata _).mpr rfl⟩

theorem resolve_of_tag {x : CompletionItem} {c : Candidate} (h : x.data = some (.nat c.tag)) :
    x.resolve =
      { x with detail := some c.detail, documentation := some (.text c.documentation) } := by
  rw [resolve, candidate?_eq_some_iff.mpr h]

theorem resolve_of_other {x : CompletionItem} (h : ∀ c : Candidate, x.data ≠ some (.nat c.tag)) :
    x.resolve = x := by
  have hnone : x.candidate? = none := Option.eq_none_iff_forall_ne_some.mpr fun c hc =>
    h c (candidate?_eq_some_iff.mp hc)
  rw [resolve, hnone]

/-- An item is resolved by its detail and its documentation alone. -/
theorem exists_resolve (x : CompletionItem) :
    ∃ detail documentation,
      x.resolve = { x with detail := detail, documentation := documentation } := by
  unfold resolve
  split
  · exact ⟨_, _, rfl⟩
  · exact ⟨x.detail, x.documentation, rfl⟩

theorem data_resolve (x : CompletionItem) : x.resolve.data = x.data := by
  obtain ⟨_, _, h⟩ := x.exists_resolve
  rw [h]

/-- There is nothing to add to an item that was resolved. -/
theorem resolve_resolve (x : CompletionItem) : x.resolve.resolve = x.resolve := by
  cases hc : x.candidate? with
  | none =>
    have hself : x.resolve = x := by rw [resolve, hc]
    rw [hself, hself]
  | some c =>
    have hdata := candidate?_eq_some_iff.mp hc
    rw [resolve_of_tag (x.data_resolve.trans hdata), resolve_of_tag hdata]

/-! ## What comes back -/

/-- The value is how an item comes back. The detail and the documentation are those of the first
candidate if the data is the integer one, those of the second if it is the integer two, and
otherwise those of the item; all other members are those of the item. -/
structure ComesBackAs (x : CompletionItem) (result : Json) : Prop where
  of_one : x.data = some (.int 1) → result =
    { x with
      detail := some "TypeScript details"
      documentation := some (.text "TypeScript documentation") }.encode
  of_two : x.data = some (.int 2) → result =
    { x with
      detail := some "JavaScript details"
      documentation := some (.text "JavaScript documentation") }.encode
  of_other : x.data ≠ some (.int 1) → x.data ≠ some (.int 2) → result = x.encode
  data_eq : result.get? "data" = x.data
  member_eq : ∀ key, key ≠ "detail" → key ≠ "documentation" → result.get? key = x.encode.get? key

theorem comesBackAs_resolve (x : CompletionItem) : x.ComesBackAs x.resolve.encode where
  of_one h := by rw [resolve_of_tag (c := .typeScript) h]; rfl
  of_two h := by rw [resolve_of_tag (c := .javaScript) h]; rfl
  of_other hone htwo := by
    rw [resolve_of_other fun c => ?_]
    cases c with
    | typeScript => exact hone
    | javaScript => exact htwo
  data_eq := by rw [get?_encode_data, data_resolve]
  member_eq key hdetail hdocumentation := by
    obtain ⟨detail, documentation, h⟩ := x.exists_resolve
    rw [h, get?_encode_of_ne x detail documentation hdetail hdocumentation]

/-- An item that was read can be resolved, written and read again. -/
theorem decode_encode_resolve {v : Json} {x : CompletionItem} (h : decode v = .ok x) :
    decode x.resolve.encode = .ok x.resolve := by
  refine decode_encode x.resolve ?_
  rw [data_resolve]
  exact data_ne_null_of_decode h

end CompletionItem

/-! ## On the wire -/

/-- While gate and session are at work, a request for the details of an item is answered with the
item, and that is all. -/
theorem run_resolve {s : Server} (hg : s.gate = .initialized) (hs : s.session = .initialized)
    {v : Json} {x : CompletionItem} (hv : CompletionItem.decode v = .ok x) (id : RequestId)
    (reply : ClientReply) :
    (ClientMessage.request id "completionItem/resolve" (some v) reply).run s =
      ⟨.reply id (.ok x.resolve.encode), s, [], .resolveAsked x.label :: unknownEvents x⟩ := by
  have hserved : (ClientMessage.request id "completionItem/resolve" (some v) reply).served? s =
      some (.resolve x) := by
    refine served?_of_decode (m := .resolve) rfl (by simp) hg ?_
    simp only [RequestMethod.decode, hv]
    rfl
  have hact : (Request.resolve x).act.run s = _ := run_resolveItem hs x
  exact (run_request_of_served hserved).trans (run_serve_of_finished hg rfl (by simp) hact id reply)

/-- After every run that leaves the gate at work, a request for the details of any item that can be
read is answered with that item, to which only the details that belong to its data are added; and
when the client sends the answer back, however the run goes on, it is answered with the same value
as long as the gate is at work. -/
theorem resolved_item_comes_back (ms : List ClientMessage) (s : Server)
    (hs : serverAfter {} (ms.map ClientMessage.step) = s) (hg : s.gate = .initialized) (v : Json)
    (x : CompletionItem) (hv : CompletionItem.decode v = .ok x) (id : RequestId)
    (reply : ClientReply) :
    ∃ result log, (ClientMessage.request id "completionItem/resolve" (some v) reply).run s =
        ⟨.reply id (.ok result), s, [], log⟩ ∧
      x.ComesBackAs result ∧
      ∀ later : List ClientMessage,
        (serverAfter s (later.map ClientMessage.step)).gate = .initialized →
        ∀ id' reply', ((ClientMessage.request id' "completionItem/resolve" (some result) reply').run
          (serverAfter s (later.map ClientMessage.step))).value = .reply id' (.ok result) := by
  have hstep : InStep s := hs ▸ inStep_fresh.serverAfter ms
  refine ⟨_, _, run_resolve hg (hstep.of_initialized hg) hv id reply, x.comesBackAs_resolve, ?_⟩
  intro later hlater id' reply'
  have hsession := (hstep.serverAfter later).of_initialized hlater
  rw [run_resolve hlater hsession (CompletionItem.decode_encode_resolve hv),
    CompletionItem.resolve_resolve]

/-- A client that starts the session asks for the details of an item of its own, with the tag of
the second candidate. -/
theorem resolved_item_comes_back_javaScript :
    ∃ s result log, s = serverAfter {} [Step.request (.number 1) "initialize"
        (some (.obj [("capabilities", .obj [])])) (.result .null)] ∧
      (ClientMessage.request (.number 2) "completionItem/resolve"
          (some (.obj [("data", .int 2), ("documentation", .str "mine"), ("label", .str "X")]))
          (.result .null)).run s =
        ⟨.reply (.number 2) (.ok result), s, [], log⟩ ∧
      result.get? "documentation" = some (.str "JavaScript documentation") ∧
      ((ClientMessage.request (.number 3) "completionItem/resolve" (some result)
        (.result .null)).run s).value = .reply (.number 3) (.ok result) := by
  obtain ⟨result, log, hrun, hback, hagain⟩ :=
    resolved_item_comes_back
      [.request (.number 1) "initialize" (some (.obj [("capabilities", .obj [])])) (.result .null)]
      _ rfl rfl (.obj [("data", .int 2), ("documentation", .str "mine"), ("label", .str "X")])
      { label := "X", data := some (.int 2), documentation := some (.text "mine") } rfl
      (.number 2) (.result .null)
  refine ⟨_, result, log, rfl, hrun, ?_, hagain [] rfl (.number 3) (.result .null)⟩
  rw [hback.of_two rfl]
  rfl

end Majuscule
