import Majuscule.Proofs.Decode.Record

/-!
# Records of two fields

A record of two fields has two forms on the wire : an object that holds the parts under their keys,
and an array of just the two parts. `HoldsPair` describes the values of either form, and these are
the values from which such a record is read (`decode_pair_eq_ok_iff`).

What else an object holds does not matter, not even to the error if the record is not read.
`Json.trim` leaves it out and changes the parts that remain; where the decoders of the parts do not
notice the change, neither does the decoder of the record (`decode_pair_trim`).
-/

namespace Majuscule

/-- The value holds two parts, the first with `p` and the second with `q` : an object under two
keys, or an array of two. -/
inductive HoldsPair (key key' : String) (p q : Json → Prop) : Json → Prop where
  | object {v a b : Json} (ha : v.get? key = some a) (hb : v.get? key' = some b) (hp : p a)
    (hq : q b) : HoldsPair key key' p q v
  | array {a b : Json} (hp : p a) (hq : q b) : HoldsPair key key' p q (.arr [a, b])

/-- The value without the members of an object under keys that nobody reads, and with its
parts changed by `part`. -/
def Json.trim (keys : List String) (part : Json → Json) : Json → Json
  | .obj members => .obj ((members.filter fun m => m.1 ∈ keys).map fun m => (m.1, part m.2))
  | .arr items => .arr (items.map part)
  | v => v

namespace Decode

variable {α β γ : Type}

theorem integer_eq_ok_iff {low high n : Int} {expected : String} {v : Json} :
    integer low high expected v = .ok n ↔ v = .int n ∧ low ≤ n ∧ n < high := by
  cases v with
  | int i =>
    simp only [integer]
    split <;> simp <;> omega
  | _ => simp [integer]

namespace Record

/-! ## The values that are read -/

/-- A record of two fields is read from the values that hold its parts, and from no others. -/
theorem decode_pair_eq_ok_iff {f : α → β → γ} {key key' name : String} {first : Decoder α}
    {second : Decoder β} {v : Json} {c : γ} :
    (f <$> required key first <*> required key' second).decode name v = .ok c ↔
      ∃ a b, HoldsPair key key' (first · = .ok a) (second · = .ok b) v ∧ f a b = c := by
  constructor
  · intro h
    rcases decode_eq_ok h with ⟨members, rfl, hm⟩ | ⟨elements, rfl, he⟩
    · obtain ⟨g, b, hg, hb, rfl⟩ := ofMembers_seq_eq_done hm
      obtain ⟨a, ha, rfl⟩ := ofMembers_map_eq_done hg
      obtain ⟨v, hv, ha⟩ := ofMembers_required_eq_done ha
      obtain ⟨w, hw, hb⟩ := ofMembers_required_eq_done hb
      exact ⟨a, b, .object hv hw ha hb, rfl⟩
    · obtain ⟨g, b, between, hg, hb, rfl⟩ := ofElements_seq_eq_ok he
      obtain ⟨a, ha, rfl⟩ := ofElements_map_eq_ok hg
      obtain ⟨v, rfl, hv⟩ := ofElements_required_eq_ok ha
      obtain ⟨w, rfl, hw⟩ := ofElements_required_eq_ok hb
      exact ⟨a, b, .array hv hw, rfl⟩
  · rintro ⟨a, b, hpair, rfl⟩
    cases hpair with
    | object hv hw ha hb =>
      cases v with
      | obj members =>
        rw [decode, read, ofMembers_seq, ofMembers_map, ofMembers_required hv ha,
          ofMembers_required hw hb]
        rfl
      | _ => cases hv
    | array ha hb =>
      simp [decode, readElements, Functor.map, Seq.seq, seq, const, required, field, ha, hb]

/-! ## What else an object holds -/

theorem lookup_trim {keys : List String} {key : String} (h : key ∈ keys) (part : Json → Json)
    (members : List (String × Json)) :
    ((members.filter fun m => m.1 ∈ keys).map fun m => (m.1, part m.2)).lookup key =
      (members.lookup key).map part := by
  induction members with
  | nil => rfl
  | cons m members ih =>
    obtain ⟨other, v⟩ := m
    by_cases hkey : key = other
    · subst hkey
      simp [h]
    · have hbeq : (key == other) = false := beq_eq_false_iff_ne.mpr hkey
      by_cases hother : other ∈ keys
      · simpa [hother, List.lookup_cons, hbeq] using ih
      · simpa [hother, List.lookup_cons, hbeq] using ih

theorem ofMembers_required_trim {keys : List String} {key : String} (h : key ∈ keys)
    {decode : Decoder α} {part : Json → Json} (hpart : ∀ v, decode (part v) = decode v)
    (members : List (String × Json)) :
    (required key decode).ofMembers
        ((members.filter fun m => m.1 ∈ keys).map fun m => (m.1, part m.2)) =
      (required key decode).ofMembers members := by
  simp only [required, field, lookup_trim h]
  cases members.lookup key with
  | none => rfl
  | some v => simp only [Option.map_some, hpart]

/-- The record takes elements that were changed by `part` as it takes the elements themselves. -/
def TakesAlike (part : Json → Json) (r : Record α) : Prop :=
  ∀ items, r.ofElements (items.map part) = (r.ofElements items).map fun x => (x.1, x.2.map part)

theorem takesAlike_required (key : String) {decode : Decoder α} {part : Json → Json}
    (hpart : ∀ v, decode (part v) = decode v) : (required key decode).TakesAlike part := by
  intro items
  cases items with
  | nil => rfl
  | cons v items =>
    simp only [required, field, List.map_cons, hpart]
    cases decode v <;> rfl

theorem TakesAlike.seq {part : Json → Json} {g : Record (α → β)} {r : Record α}
    (hg : g.TakesAlike part) (hr : r.TakesAlike part) : (g <*> r).TakesAlike part := by
  intro items
  simp only [Seq.seq, Record.seq, hg items]
  cases g.ofElements items with
  | error e => rfl
  | ok x =>
    obtain ⟨h, rest⟩ := x
    simp only [Except.map, hr rest]
    cases r.ofElements rest <;> rfl

theorem TakesAlike.map {part : Json → Json} {r : Record α} (h : r.TakesAlike part) (f : α → β) :
    (f <$> r).TakesAlike part :=
  TakesAlike.seq (g := Record.const f) (fun _ => rfl) h

/-- An array is read alike, since of the elements that are left over only the number counts. -/
theorem TakesAlike.readElements {part : Json → Json} {r : Record α} (h : r.TakesAlike part)
    (name : String) (items : List Json) :
    r.readElements name (items.map part) = r.readElements name items := by
  simp only [Record.readElements, h items]
  cases r.ofElements items with
  | error e => cases e <;> rfl
  | ok x =>
    obtain ⟨a, rest⟩ := x
    cases rest with
    | nil => rfl
    | cons v rest => simp [Except.map]

/-- A record of two fields reads nothing but its parts, and of them only what
matters to their decoders. -/
theorem decode_pair_trim {f : α → β → γ} {key key' : String} {first : Decoder α}
    {second : Decoder β} {part : Json → Json} (hfirst : ∀ v, first (part v) = first v)
    (hsecond : ∀ v, second (part v) = second v) (name : String) (v : Json) :
    (f <$> required key first <*> required key' second).decode name (v.trim [key, key'] part) =
      (f <$> required key first <*> required key' second).decode name v := by
  cases v with
  | obj members =>
    simp only [Json.trim, decode, read, ofMembers_seq, ofMembers_map]
    rw [ofMembers_required_trim (by simp) hfirst, ofMembers_required_trim (by simp) hsecond]
  | arr items =>
    have hpair : (f <$> required key first <*> required key' second).TakesAlike part :=
      ((takesAlike_required key hfirst).map f).seq (takesAlike_required key' hsecond)
    exact hpair.readElements name items
  | _ => rfl

end Record
end Decode
end Majuscule
