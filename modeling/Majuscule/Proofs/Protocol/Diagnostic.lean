import Majuscule.Proofs.Decode.Record
import Majuscule.Scan

/-!
# Diagnostics on the wire

A diagnostic is read back as it was written, provided that the URLs in it are and that its data is
not null (`Diagnostic.decode_encode`); those that the scan reports have neither
(`decode_encode_shout`). A client sends diagnostics along when it asks for code actions;
`contextDiagnostics?` is where they stand in its request.
-/

namespace Majuscule

open Decode Record

/-! ## Round trips -/

theorem NumberOrString.decode_encode (n : NumberOrString) : decode n.encode = .ok n := by
  cases n with
  | number n => simp [decode, encode, union, int32_toInt, Except.map]
  | text s => rfl

theorem NumberOrString.encode_ne_null (n : NumberOrString) : n.encode ≠ .null := by
  cases n <;> simp [encode]

/-- A diagnostic is read back as it was written if what it says about other places is. -/
theorem Diagnostic.decode_encode (d : Diagnostic)
    (hdescription : ∀ c ∈ d.codeDescription, CodeDescription.decode c.encode = .ok c)
    (hrelated : ∀ rs ∈ d.relatedInformation, ∀ r ∈ rs, RelatedInformation.decode r.encode = .ok r)
    (hdata : ∀ v ∈ d.data, v ≠ .null) : decode d.encode = .ok d := by
  obtain ⟨members, hmembers⟩ : ∃ members, d.encode = .obj members := ⟨_, rfl⟩
  have hkeys : (["range", "severity", "code", "codeDescription", "source", "message",
    "relatedInformation", "tags", "data"] : List String).Nodup := by decide
  have hrange : (required "range" Range.decode).ofMembers members = .done d.range :=
    ofMembers_required_object hmembers hkeys rfl (Range.decode_encode _)
  have hseverity : (optional "severity" int32).ofMembers members = .done d.severity :=
    ofMembers_optional_object hmembers hkeys rfl fun n _ => ⟨by simp, int32_toInt n⟩
  have hcode : (optional "code" NumberOrString.decode).ofMembers members = .done d.code :=
    ofMembers_optional_object hmembers hkeys rfl fun n _ => ⟨n.encode_ne_null, n.decode_encode⟩
  have hcodeDescription :
      (optional "codeDescription" CodeDescription.decode).ofMembers members =
        .done d.codeDescription :=
    ofMembers_optional_object hmembers hkeys rfl fun c hc =>
      ⟨by simp [CodeDescription.encode], hdescription c hc⟩
  have hsource : (optional "source" text).ofMembers members = .done d.source :=
    ofMembers_optional_object hmembers hkeys rfl fun s _ => ⟨by simp, rfl⟩
  have hmessage : (required "message" text).ofMembers members = .done d.message :=
    ofMembers_required_object hmembers hkeys rfl rfl
  have hinformation : (optional "relatedInformation" (list RelatedInformation.decode)).ofMembers
    members = .done d.relatedInformation :=
    ofMembers_optional_object hmembers hkeys rfl fun rs hrs => ⟨by simp, each_map (hrelated rs hrs)⟩
  have htags : (optional "tags" (list int32)).ofMembers members = .done d.tags :=
    ofMembers_optional_object hmembers hkeys rfl fun ns _ =>
      ⟨by simp, each_map fun n _ => int32_toInt n⟩
  have hany : (optional "data" any).ofMembers members = .done d.data := by
    refine ofMembers_optional_object hmembers hkeys ?_ fun v hv => ⟨hdata v hv, rfl⟩
    show some d.data = some (d.data.map fun v => v)
    rw [Option.map_id']
  rw [hmembers, decode, Record.decode, Record.read, record]
  simp only [ofMembers_seq, ofMembers_map, hrange, hseverity, hcode, hcodeDescription, hsource,
    hmessage, hinformation, htags, hany]
  rfl

/-- A problem that the scan reports is read back as it was written. -/
theorem decode_encode_shout (line : Nat) (s : Scan.Shout) :
    Diagnostic.decode (s.diagnostic line).encode = .ok (s.diagnostic line) := by
  refine Diagnostic.decode_encode _ (fun c hc => ?_) (fun rs hrs => ?_) fun v hv => ?_
  · cases hc
  · cases hrs
  · cases hv

/-! ## Diagnostics in a request for code actions -/

/-- The diagnostics in the parameters of a request for code actions, as they are on the wire. -/
def contextDiagnostics? (v : Json) : Option Json :=
  (v.get? "context").bind fun
    | .arr elements => elements.head?
    | context => context.get? "diagnostics"

/-- The diagnostics of a request for code actions are those on the wire. -/
theorem exists_contextDiagnostics {v : Json} {params : CodeActionParams}
    (h : CodeActionParams.decode v = .ok params) :
    ∃ found, contextDiagnostics? v = some found ∧
      list Diagnostic.decode found = .ok params.diagnostics := by
  obtain ⟨members, rfl, h⟩ := decodeObject_eq_ok h
  obtain ⟨params', hread, h⟩ := bind_eq_ok h
  obtain ⟨_, -, h⟩ := bind_eq_ok h
  obtain ⟨_, -, h⟩ := bind_eq_ok h
  cases h
  obtain ⟨_, diagnostics, hpair, hcontext, rfl⟩ := ofMembers_seq_eq_done (read_eq_ok hread)
  obtain ⟨_, range, huri, -, rfl⟩ := ofMembers_seq_eq_done hpair
  obtain ⟨uri, -, rfl⟩ := ofMembers_map_eq_done huri
  obtain ⟨context, hlookup, hcontext⟩ := ofMembers_required_eq_done hcontext
  rcases decode_eq_ok hcontext with ⟨fields, rfl, hfields⟩ | ⟨elements, rfl, helements⟩
  · obtain ⟨_, _, honly, -, rfl⟩ := ofMembers_seq_eq_done hfields
    obtain ⟨_, _, hfirst, -, rfl⟩ := ofMembers_seq_eq_done honly
    obtain ⟨found, hfound, rfl⟩ := ofMembers_map_eq_done hfirst
    obtain ⟨w, hw, hdecode⟩ := ofMembers_required_eq_done hfound
    exact ⟨w, by simp [contextDiagnostics?, Json.get?, hlookup, hw], hdecode⟩
  · obtain ⟨_, _, _, honly, -, rfl⟩ := ofElements_seq_eq_ok helements
    obtain ⟨_, _, _, hfirst, -, rfl⟩ := ofElements_seq_eq_ok honly
    obtain ⟨found, hfound, rfl⟩ := ofElements_map_eq_ok hfirst
    obtain ⟨w, rfl, hdecode⟩ := ofElements_required_eq_ok hfound
    exact ⟨w, by simp [contextDiagnostics?, Json.get?, hlookup], hdecode⟩

/-- The problems that the scan reports come back in a request for code actions as they went out. -/
theorem list_decode_encodeList {ds : List Diagnostic}
    (h : ∀ d ∈ ds, ∃ line s, d = Scan.Shout.diagnostic line s) :
    list Diagnostic.decode (Diagnostic.encodeList ds) = .ok ds := by
  refine each_map fun d hd => ?_
  obtain ⟨line, s, rfl⟩ := h d hd
  exact decode_encode_shout line s

end Majuscule
