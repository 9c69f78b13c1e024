import Majuscule.Proofs.Decode.Pair
import Majuscule.Proofs.Decode.RoundTrip
import Majuscule.Protocol.CompletionItem

/-!
# Completion items on the wire

A completion item is read back as it was written, provided that its data is not null
(`CompletionItem.decode_encode`). Null data could not be told from absent data, but no item that was
read has it (`CompletionItem.data_ne_null_of_decode`), so an item that came from a client can always
be written and read again.

The parts of an item undo their encodings one by one. A documentation and the edit of an item have
two forms each, and what is written in the second form cannot be read in the first one.
-/

namespace Majuscule

open Decode Record

/-! ## The parts of an item -/

theorem TextEdit.undoes : Undoes decode encode where
  ne_null _ := nofun
  decode_encode e := decode_pair_eq_ok_iff.mpr ⟨e.range, e.newText,
    .object rfl rfl (Range.decode_encode _) rfl, rfl⟩

theorem LabelDetails.undoes : Undoes decode encode where
  ne_null _ := nofun
  decode_encode d := by
    obtain ⟨members, hmembers⟩ : ∃ members, d.encode = .obj members := ⟨_, rfl⟩
    have hkeys : (["detail", "description"] : List String).Nodup := by decide
    have hdetail : (optional "detail" text).ofMembers members = .done d.detail :=
      ofMembers_optional_of_undoes hmembers hkeys undoes_text rfl
    have hdescription : (optional "description" text).ofMembers members = .done d.description :=
      ofMembers_optional_of_undoes hmembers hkeys undoes_text rfl
    rw [hmembers, decode, Record.decode, Record.read]
    simp only [ofMembers_seq, ofMembers_map, hdetail, hdescription]
    rfl

theorem MarkupKind.decode_encode (k : MarkupKind) : decode k.encode = .ok k := by
  cases k <;> rfl

theorem Documentation.undoes : Undoes decode encode where
  ne_null d := by cases d <;> nofun
  decode_encode d := by
    cases d with
    | text s => exact union_of_first rfl
    | markup kind value =>
      have hmarkup :
          (markup <$> required "kind" MarkupKind.decode <*> required "value" Decode.text).decode
            "MarkupContent" (markup kind value).encode = .ok (markup kind value) :=
        decode_pair_eq_ok_iff.mpr ⟨kind, value, .object rfl rfl kind.decode_encode rfl, rfl⟩
      exact union_of_second rfl hmarkup

theorem CompletionEdit.undoes : Undoes decode encode where
  ne_null e := by cases e <;> nofun
  decode_encode e := by
    cases e with
    | edit e =>
      refine union_of_first ?_
      rw [encode, TextEdit.undoes.decode_encode]
      rfl
    | insertReplace newText insert replace =>
      -- Without a range this is no plain edit.
      have hedit : TextEdit.decode (insertReplace newText insert replace).encode =
        .error (.missingField "range") := rfl
      refine union_of_second (by rw [hedit]; rfl) ?_
      obtain ⟨members, hmembers⟩ :
          ∃ members, (insertReplace newText insert replace).encode = .obj members := ⟨_, rfl⟩
      have hnewText : (required "newText" text).ofMembers members = .done newText := by
        cases hmembers
        exact ofMembers_required rfl rfl
      have hinsert : (required "insert" Range.decode).ofMembers members = .done insert := by
        cases hmembers
        exact ofMembers_required rfl (Range.decode_encode insert)
      have hreplace : (required "replace" Range.decode).ofMembers members = .done replace := by
        cases hmembers
        exact ofMembers_required rfl (Range.decode_encode replace)
      rw [hmembers, Record.decode, Record.read]
      simp only [ofMembers_seq, ofMembers_map, hnewText, hinsert, hreplace]
      rfl

theorem CommandLink.undoes : Undoes decode encode where
  ne_null _ := nofun
  decode_encode c := by
    obtain ⟨members, hmembers⟩ : ∃ members, c.encode = .obj members := ⟨_, rfl⟩
    have hkeys : (["title", "command", "arguments"] : List String).Nodup := by decide
    have htitle : (required "title" text).ofMembers members = .done c.title :=
      ofMembers_required_object hmembers hkeys rfl rfl
    have hcommand : (required "command" text).ofMembers members = .done c.command :=
      ofMembers_required_object hmembers hkeys rfl rfl
    have harguments : (optional "arguments" (list any)).ofMembers members = .done c.arguments :=
      ofMembers_optional_of_undoes hmembers hkeys undoes_list_any rfl
    rw [hmembers, decode, Record.decode, Record.read]
    simp only [ofMembers_seq, ofMembers_map, htitle, hcommand, harguments]
    rfl

namespace CompletionItem

/-! ## The item -/

theorem nodup_keys :
    (["label", "labelDetails", "kind", "detail", "documentation", "deprecated", "preselect",
      "sortText", "filterText", "insertText", "insertTextFormat", "insertTextMode", "textEdit",
      "additionalTextEdits", "command", "commitCharacters", "data", "tags"] :
        List String).Nodup := by
  decide

/-- An item is read back as it was written, unless it has null data. -/
theorem decode_encode (c : CompletionItem) (hdata : c.data ≠ some .null) :
    decode c.encode = .ok c := by
  obtain ⟨members, hmembers⟩ : ∃ members, c.encode = .obj members := ⟨_, rfl⟩
  have hkeys := nodup_keys
  have hlabel : (required "label" text).ofMembers members = .done c.label :=
    ofMembers_required_object hmembers hkeys rfl rfl
  have hlabelDetails : (optional "labelDetails" LabelDetails.decode).ofMembers members =
      .done c.labelDetails :=
    ofMembers_optional_of_undoes hmembers hkeys LabelDetails.undoes rfl
  have hkind : (optional "kind" int32).ofMembers members = .done c.kind :=
    ofMembers_optional_of_undoes hmembers hkeys undoes_int32 rfl
  have hdetail : (optional "detail" text).ofMembers members = .done c.detail :=
    ofMembers_optional_of_undoes hmembers hkeys undoes_text rfl
  have hdocumentation : (optional "documentation" Documentation.decode).ofMembers members =
      .done c.documentation :=
    ofMembers_optional_of_undoes hmembers hkeys Documentation.undoes rfl
  have hdeprecated : (optional "deprecated" boolean).ofMembers members = .done c.deprecated :=
    ofMembers_optional_of_undoes hmembers hkeys undoes_boolean rfl
  have hpreselect : (optional "preselect" boolean).ofMembers members = .done c.preselect :=
    ofMembers_optional_of_undoes hmembers hkeys undoes_boolean rfl
  have hsortText : (optional "sortText" text).ofMembers members = .done c.sortText :=
    ofMembers_optional_of_undoes hmembers hkeys undoes_text rfl
  have hfilterText : (optional "filterText" text).ofMembers members = .done c.filterText :=
    ofMembers_optional_of_undoes hmembers hkeys undoes_text rfl
  have hinsertText : (optional "insertText" text).ofMembers members = .done c.insertText :=
    ofMembers_optional_of_undoes hmembers hkeys undoes_text rfl
  have hinsertTextFormat : (optional "insertTextFormat" int32).ofMembers members =
      .done c.insertTextFormat :=
    ofMembers_optional_of_undoes hmembers hkeys undoes_int32 rfl
  have hinsertTextMode : (optional "insertTextMode" int32).ofMembers members =
      .done c.insertTextMode :=
    ofMembers_optional_of_undoes hmembers hkeys undoes_int32 rfl
  have htextEdit : (optional "textEdit" CompletionEdit.decode).ofMembers members =
      .done c.textEdit :=
    ofMembers_optional_of_undoes hmembers hkeys CompletionEdit.undoes rfl
  have hadditional : (optional "additionalTextEdits" (list TextEdit.decode)).ofMembers members =
      .done c.additionalTextEdits :=
    ofMembers_optional_of_undoes hmembers hkeys TextEdit.undoes.list rfl
  have hcommand : (optional "command" CommandLink.decode).ofMembers members = .done c.command :=
    ofMembers_optional_of_undoes hmembers hkeys CommandLink.undoes rfl
  have hcommitCharacters : (optional "commitCharacters" (list text)).ofMembers members =
      .done c.commitCharacters :=
    ofMembers_optional_of_undoes hmembers hkeys undoes_text.list rfl
  have hany : (optional "data" any).ofMembers members = .done c.data := by
    refine ofMembers_optional_object hmembers hkeys ?_ fun v hv =>
      ⟨fun hnull => hdata (hnull ▸ hv), rfl⟩
    show some c.data = some (c.data.map fun v => v)
    rw [Option.map_id']
  have htags : (optional "tags" (list int32)).ofMembers members = .done c.tags :=
    ofMembers_optional_of_undoes hmembers hkeys undoes_int32.list rfl
  rw [hmembers, decode, Record.decode, Record.read, record]
  simp only [ofMembers_seq, ofMembers_map, hlabel, hlabelDetails, hkind, hdetail, hdocumentation,
    hdeprecated, hpreselect, hsortText, hfilterText, hinsertText, hinsertTextFormat,
    hinsertTextMode, htextEdit, hadditional, hcommand,
    hcommitCharacters, hany, htags]
  rfl

/-- An item that was read has data that is not null, if it has any. -/
theorem data_ne_null_of_decode {v : Json} {c : CompletionItem} (h : decode v = .ok c) :
    c.data ≠ some .null := by
  have hgives : Gives (fun c : CompletionItem => c.data ≠ some .null) record := by
    unfold record
    refine Gives.seq (Gives.seq_of ?_ (gives_optional_any "data")) _
    -- None of the fields before the data matters.
    iterate 15 refine Gives.seq ?_ _
    refine gives_map ?_ _
    intros
    assumption
  exact hgives.of_decode h

/-! ## Its members -/

theorem get?_encode_data (c : CompletionItem) : c.encode.get? "data" = c.data :=
  get?_object (by exact nodup_keys) "data"

/-- Other details leave the other members of an item as they are. -/
theorem get?_encode_of_ne (c : CompletionItem) (detail : Option String)
    (documentation : Option Documentation) {key : String} (hdetail : key ≠ "detail")
    (hdocumentation : key ≠ "documentation") :
    { c with detail := detail, documentation := documentation }.encode.get? key =
      c.encode.get? key := by
  have hd : (key == "detail") = false := beq_eq_false_iff_ne.mpr hdetail
  have hdoc : (key == "documentation") = false := beq_eq_false_iff_ne.mpr hdocumentation
  have hnew : { c with detail := detail, documentation := documentation }.encode.get? key = _ :=
    get?_object (by exact nodup_keys) key
  have hold : c.encode.get? key = _ := get?_object (by exact nodup_keys) key
  rw [hnew, hold]
  simp only [List.lookup_cons, hd, hdoc]

end CompletionItem
end Majuscule
