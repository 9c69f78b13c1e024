import Majuscule.Protocol.Params

/-!
# Reading records

What it takes for a record to be read. From an object, every field that has to be there is found
under its name and decodes; from an array, the fields take the elements one after another. A record
that is read was put together from its fields (`ofMembers_seq_eq_done`, `ofElements_seq_eq_ok`).

A value with optional fields is written as an object without the absent ones, and each field is read
back from it as it was (`ofMembers_required_object`, `ofMembers_optional_object`).
-/

namespace Majuscule.Decode

variable {α β : Type}

/-! ## Values and lists -/

theorem exists_of_map_eq_ok {ε : Type} {f : α → β} {x : Except ε α} {b : β} (h : x.map f = .ok b) :
    ∃ a, x = .ok a ∧ f a = b := by
  cases x with
  | error e => cases h
  | ok a => exact ⟨a, rfl, Except.ok.inj h⟩

theorem bind_eq_ok {ε : Type} {x : Except ε α} {f : α → Except ε β} {b : β} (h : x >>= f = .ok b) :
    ∃ a, x = .ok a ∧ f a = .ok b := by
  cases x with
  | error e => cases h
  | ok a => exact ⟨a, rfl, h⟩

/-- Values that are written one by one are read back one by one. -/
theorem each_map {decode : Decoder α} {encode : α → Json} {as : List α}
    (h : ∀ a ∈ as, decode (encode a) = .ok a) : each decode (as.map encode) = .ok as := by
  induction as with
  | nil => rfl
  | cons a as ih =>
    have ha := h a List.mem_cons_self
    have has := ih fun b hb => h b (List.mem_cons_of_mem _ hb)
    rw [List.map_cons, each, ha, has]
    rfl

theorem each_any (vs : List Json) : each any vs = .ok vs := by
  induction vs with
  | nil => rfl
  | cons v vs ih =>
    rw [each, ih]
    rfl

/-! ## Fields of an object -/

theorem Reading.seq_eq_done {f : Reading (α → β)} {x : Reading α} {b : β} (h : f.seq x = .done b) :
    ∃ g a, f = .done g ∧ x = .done a ∧ g a = b := by
  unfold Reading.seq at h
  split at h
  · split at h <;> cases h
  · cases h
  · cases h
  · cases h
  · cases h
  · next g a => exact ⟨g, a, rfl, rfl, Reading.done.inj h⟩

namespace Record

theorem ofMembers_seq_eq_done {f : Record (α → β)} {r : Record α} {members : List (String × Json)}
    {b : β} (h : (f <*> r).ofMembers members = .done b) :
    ∃ g a, f.ofMembers members = .done g ∧ r.ofMembers members = .done a ∧ g a = b :=
  Reading.seq_eq_done h

theorem ofMembers_map_eq_done {f : α → β} {r : Record α} {members : List (String × Json)} {b : β}
    (h : (f <$> r).ofMembers members = .done b) : ∃ a, r.ofMembers members = .done a ∧ f a = b := by
  obtain ⟨g, a, hg, ha, hb⟩ := Reading.seq_eq_done h
  cases hg
  exact ⟨a, ha, hb⟩

/-- A field that has to be there was found and decoded. -/
theorem ofMembers_required_eq_done {name : String} {decode : Decoder α}
    {members : List (String × Json)} {a : α}
    (h : (required name decode).ofMembers members = .done a) :
    ∃ v, members.lookup name = some v ∧ decode v = .ok a := by
  simp only [required, field] at h
  split at h
  · cases h
  · next v hv =>
    split at h
    · next b hb =>
      cases h
      exact ⟨v, hv, hb⟩
    · cases h

theorem ofMembers_defaulted_of_lookup {name : String} {value : α} {decode : Decoder α}
    {members : List (String × Json)} {v : Json} {a : α} (h : members.lookup name = some v)
    (hv : decode v = .ok a) : (defaulted name value decode).ofMembers members = .done a := by
  simp [defaulted, field, h, hv]

theorem read_eq_ok {r : Record α} {members : List (String × Json)} {a : α}
    (h : r.read members = .ok a) : r.ofMembers members = .done a := by
  unfold read at h
  cases hr : r.ofMembers members <;> simp_all [Reading.toExcept]

/-! ## Fields that are written -/

/-- An object with optional members has those that are present. -/
theorem lookup_object {fields : List (String × Option Json)} {members : List (String × Json)}
    (hkeys : (fields.map Prod.fst).Nodup) (h : Json.object fields = .obj members) (name : String) :
    members.lookup name = (fields.lookup name).join := by
  cases h
  induction fields with
  | nil => rfl
  | cons f fields ih =>
    obtain ⟨key, o⟩ := f
    obtain ⟨hnot, hkeys⟩ := List.nodup_cons.mp hkeys
    have hrest := ih hkeys
    by_cases hname : name = key
    · subst hname
      have hnone : fields.lookup name = none := by
        refine List.lookup_eq_none_iff.mpr fun f hf => ?_
        have hne : name ≠ f.1 := fun heq => hnot (List.mem_map.mpr ⟨f, hf, heq.symm⟩)
        simpa using hne
      cases o with
      | none => simpa [hnone] using hrest
      | some v => simp
    · have hbeq : (name == key) = false := beq_eq_false_iff_ne.mpr hname
      cases o with
      | none => simpa [List.lookup_cons, hbeq] using hrest
      | some v => simpa [List.lookup_cons, hbeq] using hrest

section Written

variable {fields : List (String × Option Json)} {members : List (String × Json)} {name : String}
  {decode : Decoder α}

/-- A field that has to be there is read as it was written. -/
theorem ofMembers_required_object (h : Json.object fields = .obj members)
    (hkeys : (fields.map Prod.fst).Nodup) {v : Json} {a : α}
    (hname : fields.lookup name = some (some v)) (hv : decode v = .ok a) :
    (required name decode).ofMembers members = .done a :=
  ofMembers_required (by rw [lookup_object hkeys h, hname]; rfl) hv

/-- An optional field is read as it was written, provided that what is written is not null. -/
theorem ofMembers_optional_object (h : Json.object fields = .obj members)
    (hkeys : (fields.map Prod.fst).Nodup) {encode : α → Json} {o : Option α}
    (hname : fields.lookup name = some (o.map encode))
    (ho : ∀ a ∈ o, encode a ≠ .null ∧ decode (encode a) = .ok a) :
    (optional name decode).ofMembers members = .done o := by
  have hlookup := lookup_object hkeys h name
  rw [hname] at hlookup
  cases o with
  | none =>
    have hnone : members.lookup name = none := hlookup
    simp [optional, field, hnone]
  | some a =>
    obtain ⟨hnull, hdecode⟩ := ho a rfl
    have hsome : members.lookup name = some (encode a) := hlookup
    have hnullable : nullable decode (encode a) = .ok (some a) := by
      unfold nullable
      split
      · next heq => exact absurd heq hnull
      · rw [hdecode]
        rfl
    simp [optional, field, hsome, hnullable]

end Written

/-- An optional field is read if what stands there can be. -/
theorem exists_ofMembers_optional {name : String} {decode : Decoder α}
    {members : List (String × Json)}
    (h : ∀ v, members.lookup name = some v → ∃ o, nullable decode v = .ok o) :
    ∃ o, (optional name decode).ofMembers members = .done o := by
  cases hlookup : members.lookup name with
  | none => exact ⟨none, by simp [optional, field, hlookup]⟩
  | some v =>
    obtain ⟨o, ho⟩ := h v hlookup
    exact ⟨o, by simp [optional, field, hlookup, ho]⟩

/-! ## Elements of an array -/

theorem ofElements_seq_eq_ok {f : Record (α → β)} {r : Record α} {elements rest : List Json} {b : β}
    (h : (f <*> r).ofElements elements = .ok (b, rest)) :
    ∃ g a between, f.ofElements elements = .ok (g, between) ∧ r.ofElements between = .ok (a, rest) ∧
      g a = b := by
  simp only [Seq.seq, Record.seq] at h
  split at h
  · cases h
  · next g between hf =>
    split at h
    · cases h
    · next a rest' hr =>
      cases h
      exact ⟨g, a, between, hf, hr, rfl⟩

theorem ofElements_map_eq_ok {f : α → β} {r : Record α} {elements rest : List Json} {b : β}
    (h : (f <$> r).ofElements elements = .ok (b, rest)) :
    ∃ a, r.ofElements elements = .ok (a, rest) ∧ f a = b := by
  obtain ⟨g, a, between, hg, ha, hb⟩ := ofElements_seq_eq_ok (f := Record.const f) h
  cases hg
  exact ⟨a, ha, hb⟩

theorem ofElements_required_eq_ok {name : String} {decode : Decoder α} {elements rest : List Json}
    {a : α} (h : (required name decode).ofElements elements = .ok (a, rest)) :
    ∃ v, elements = v :: rest ∧ decode v = .ok a := by
  cases elements with
  | nil => cases h
  | cons v elements =>
    cases hv : decode v with
    | error e => simp [required, field, hv] at h
    | ok b =>
      simp only [required, field, hv, Except.ok.injEq, Prod.mk.injEq] at h
      obtain ⟨rfl, rfl⟩ := h
      exact ⟨v, rfl, hv⟩

/-- A record that is read comes as an object, or as an array whose elements it takes all. -/
theorem decode_eq_ok {r : Record α} {name : String} {v : Json} {a : α}
    (h : r.decode name v = .ok a) :
    (∃ members, v = .obj members ∧ r.ofMembers members = .done a) ∨
      ∃ elements, v = .arr elements ∧ r.ofElements elements = .ok (a, []) := by
  cases v with
  | obj members => exact Or.inl ⟨members, rfl, read_eq_ok h⟩
  | arr elements =>
    refine Or.inr ⟨elements, rfl, ?_⟩
    simp only [Record.decode, readElements] at h
    split at h <;> simp_all
  | _ => cases h

theorem decodeObject_eq_ok {name : String} {read : List (String × Json) → Except DecodeError α}
    {v : Json} {a : α} (h : decodeObject name read v = .ok a) :
    ∃ members, v = .obj members ∧ read members = .ok a := by
  cases v with
  | obj members => exact ⟨members, rfl, h⟩
  | _ => cases h

end Record
end Majuscule.Decode
