import Majuscule.Proofs.Decode.Record

/-!
# Round trips of fields

A decoder undoes an encoding if what is written is never null and is read back as it was (`Undoes`).
Null matters because a field that is null counts as absent : an optional field whose decoder undoes
its encoding is read back as it was, whether it is there or not (`ofMembers_optional_of_undoes`).

In the other direction, `Gives p` says of a record that all that is read satisfies `p`, from an
object or from an array. It passes over the fields of which `p` says nothing (`Gives.seq`).
-/

namespace Majuscule.Decode

variable {α β : Type}

/-! ## Decoders that undo an encoding -/

/-- What is written is not null, and it is read back as it was. -/
structure Undoes (decode : Decoder α) (encode : α → Json) : Prop where
  ne_null : ∀ a, encode a ≠ .null
  decode_encode : ∀ a, decode (encode a) = .ok a

theorem undoes_text : Undoes text .str :=
  ⟨fun _ => nofun, fun _ => rfl⟩

theorem undoes_boolean : Undoes boolean .bool :=
  ⟨fun _ => nofun, fun _ => rfl⟩

theorem undoes_int32 : Undoes int32 fun n => .int n.toInt :=
  ⟨fun _ => nofun, int32_toInt⟩

theorem undoes_list_any : Undoes (list any) .arr :=
  ⟨fun _ => nofun, each_any⟩

theorem Undoes.list {decode : Decoder α} {encode : α → Json} (h : Undoes decode encode) :
    Undoes (list decode) fun as => .arr (as.map encode) :=
  ⟨fun _ => nofun, fun _ => each_map fun a _ => h.decode_encode a⟩

/-- The first alternative is taken if it fits. -/
theorem union_of_first {name : String} {first second : Decoder α} {v : Json} {a : α}
    (h : first v = .ok a) : union name first second v = .ok a := by
  simp [union, h]

/-- The second alternative is taken if only it fits. -/
theorem union_of_second {name : String} {first second : Decoder α} {v : Json} {e : DecodeError}
    {a : α} (hfirst : first v = .error e) (hsecond : second v = .ok a) :
    union name first second v = .ok a := by
  simp [union, hfirst, hsecond]

namespace Record

/-- An optional field is read back as it was written. -/
theorem ofMembers_optional_of_undoes {fields : List (String × Option Json)}
    {members : List (String × Json)} {name : String} {decode : Decoder α} {encode : α → Json}
    {o : Option α} (h : Json.object fields = .obj members) (hkeys : (fields.map Prod.fst).Nodup)
    (hundoes : Undoes decode encode) (hname : fields.lookup name = some (o.map encode)) :
    (optional name decode).ofMembers members = .done o :=
  ofMembers_optional_object h hkeys hname fun a _ => ⟨hundoes.ne_null a, hundoes.decode_encode a⟩

theorem get?_object {fields : List (String × Option Json)} (hkeys : (fields.map Prod.fst).Nodup)
    (key : String) : (Json.object fields).get? key = (fields.lookup key).join :=
  lookup_object hkeys rfl key

/-! ## What is read -/

/-- All that is read, from an object or from an array, satisfies `p`. -/
structure Gives (p : α → Prop) (r : Record α) : Prop where
  of_members : ∀ members a, r.ofMembers members = .done a → p a
  of_elements : ∀ elements a rest, r.ofElements elements = .ok (a, rest) → p a

theorem Gives.of_decode {p : α → Prop} {r : Record α} (h : Gives p r) {name : String} {v : Json}
    {a : α} (hv : r.decode name v = .ok a) : p a := by
  rcases decode_eq_ok hv with ⟨members, -, hm⟩ | ⟨elements, -, he⟩
  · exact h.of_members members a hm
  · exact h.of_elements elements a [] he

theorem gives_map {p : β → Prop} {f : α → β} (h : ∀ a, p (f a)) (r : Record α) :
    Gives p (f <$> r) where
  of_members members b hb := by
    obtain ⟨a, -, rfl⟩ := ofMembers_map_eq_done hb
    exact h a
  of_elements elements b rest hb := by
    obtain ⟨a, -, rfl⟩ := ofElements_map_eq_ok hb
    exact h a

/-- A record is put together from its fields, of which the last one satisfies `q`. -/
theorem Gives.seq_of {p : β → Prop} {q : α → Prop} {f : Record (α → β)} {r : Record α}
    (hf : Gives (fun g => ∀ a, q a → p (g a)) f) (hr : Gives q r) : Gives p (f <*> r) where
  of_members members b hb := by
    obtain ⟨g, a, hg, ha, rfl⟩ := ofMembers_seq_eq_done hb
    exact hf.of_members members g hg a (hr.of_members members a ha)
  of_elements elements b rest hb := by
    obtain ⟨g, a, between, hg, ha, rfl⟩ := ofElements_seq_eq_ok hb
    exact hf.of_elements elements g between hg a (hr.of_elements between a rest ha)

/-- A field that does not matter is passed over. -/
theorem Gives.seq {p : β → Prop} {f : Record (α → β)} (hf : Gives (fun g => ∀ a, p (g a)) f)
    (r : Record α) : Gives p (f <*> r) :=
  Gives.seq_of (q := fun _ => True)
    ⟨fun m g hg a _ => hf.of_members m g hg a, fun m g rest hg a _ => hf.of_elements m g rest hg a⟩
    ⟨fun _ _ _ => trivial, fun _ _ _ _ => trivial⟩

/-- An optional field is absent, or what stands there was decoded. -/
theorem ofMembers_optional_eq_done {name : String} {decode : Decoder α}
    {members : List (String × Json)} {o : Option α}
    (h : (optional name decode).ofMembers members = .done o) :
    o = none ∨ ∃ v, members.lookup name = some v ∧ nullable decode v = .ok o := by
  simp only [optional, field] at h
  split at h
  · cases h
    exact Or.inl rfl
  · next v hv =>
    split at h
    · next o' ho =>
      cases h
      exact Or.inr ⟨v, hv, ho⟩
    · cases h

theorem ofElements_optional_eq_ok {name : String} {decode : Decoder α} {elements rest : List Json}
    {o : Option α} (h : (optional name decode).ofElements elements = .ok (o, rest)) :
    ∃ v, elements = v :: rest ∧ nullable decode v = .ok o := by
  cases elements with
  | nil => cases h
  | cons v elements =>
    cases hv : nullable decode v with
    | error e => simp [optional, field, hv] at h
    | ok o' =>
      simp only [optional, field, hv, Except.ok.injEq, Prod.mk.injEq] at h
      obtain ⟨rfl, rfl⟩ := h
      exact ⟨v, rfl, hv⟩

/-- A field for any value is absent when it is null. -/
theorem gives_optional_any (name : String) : Gives (· ≠ some .null) (optional name any) := by
  have hnullable : ∀ v o, nullable any v = .ok o → o ≠ some .null := by
    intro v o ho
    cases v <;> cases ho <;> simp
  constructor
  · intro members o ho
    rcases ofMembers_optional_eq_done ho with rfl | ⟨v, -, hv⟩
    · simp
    · exact hnullable v o hv
  · intro elements o rest ho
    obtain ⟨v, -, hv⟩ := ofElements_optional_eq_ok ho
    exact hnullable v o hv

end Record
end Majuscule.Decode
