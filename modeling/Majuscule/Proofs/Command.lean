import Majuscule.Command
import Majuscule.Proofs.Decode.Pair

/-!
# The arguments of a command and its edit

A client sends a command by its name with any list of JSON values as arguments. This file says which
of them the server takes, without its decoders, and what the edit is that it proposes for them. A
position is a pair of integers of 32 bits (`DenotesPosition`), a range a pair of positions
(`DenotesRange`), each an object or an array; and the arguments denote a document and a range if
they begin with the text of a URL and a range (`DenotesTarget`).

These arguments are accepted (`lowerCaseArguments_eq_ok_iff`), all others are refused for the first
of them that is missing or malformed (`NamesFirstBad`), and nothing else in them has any influence
(`essentialArguments`). `parse_accepts_exactly` puts the three together.

What the server writes is narrower than what it takes : positions and ranges are objects
(`ShowsRange`). The edit of a command puts a text in the place of its range, and touches no other
document (`ReplacesRange`).
-/

namespace Majuscule

open Decode Record

/-! ## Positions and ranges -/

/-- The value is an integer, and not a float, of 32 bits. -/
def DenotesNumber (v : Json) (n : UInt32) : Prop :=
  v = .int n.toNat

/-- The value denotes a position : its line and its column. -/
def DenotesPosition (v : Json) (p : Position) : Prop :=
  HoldsPair "line" "character" (DenotesNumber · p.line) (DenotesNumber · p.character) v

/-- The value denotes a range : its start and its end. -/
def DenotesRange (v : Json) (r : Range) : Prop :=
  HoldsPair "start" "end" (DenotesPosition · r.start) (DenotesPosition · r.stop) v

theorem uint32_eq_ok_iff {v : Json} {n : UInt32} : uint32 v = .ok n ↔ DenotesNumber v n := by
  constructor
  · intro h
    obtain ⟨i, hi, rfl⟩ := exists_of_map_eq_ok h
    obtain ⟨rfl, hlow, hhigh⟩ := integer_eq_ok_iff.mp hi
    have hn : i.toNat.toUInt32.toNat = i.toNat := by
      simp only [Nat.toUInt32, UInt32.toNat_ofNat']
      omega
    rw [DenotesNumber, hn, Int.toNat_of_nonneg hlow]
  · rintro rfl
    exact uint32_nat n

theorem Position.decode_eq_ok_iff {v : Json} {p : Position} :
    Position.decode v = .ok p ↔ DenotesPosition v p := by
  rw [Position.decode, Position.record, decode_pair_eq_ok_iff, DenotesPosition]
  simp only [uint32_eq_ok_iff]
  constructor
  · rintro ⟨line, character, h, rfl⟩
    exact h
  · intro h
    exact ⟨p.line, p.character, h, rfl⟩

theorem Range.decode_eq_ok_iff {v : Json} {r : Range} :
    Range.decode v = .ok r ↔ DenotesRange v r := by
  rw [Range.decode, Range.record, decode_pair_eq_ok_iff, DenotesRange]
  simp only [Position.decode_eq_ok_iff]
  constructor
  · rintro ⟨start, stop, h, rfl⟩
    exact h
  · intro h
    exact ⟨r.start, r.stop, h, rfl⟩

/-- The value shows a position : an object with its line and its column. -/
structure ShowsPosition (v : Json) (p : Position) : Prop where
  line_eq : v.get? "line" = some (.int p.line.toNat)
  character_eq : v.get? "character" = some (.int p.character.toNat)

/-- The value shows a range : an object with its start and its end. -/
structure ShowsRange (v : Json) (r : Range) : Prop where
  exists_start : ∃ start, v.get? "start" = some start ∧ ShowsPosition start r.start
  exists_stop : ∃ stop, v.get? "end" = some stop ∧ ShowsPosition stop r.stop

theorem showsPosition_encode (p : Position) : ShowsPosition p.encode p :=
  ⟨rfl, rfl⟩

theorem showsRange_encode (r : Range) : ShowsRange r.encode r :=
  ⟨⟨_, rfl, showsPosition_encode r.start⟩, ⟨_, rfl, showsPosition_encode r.stop⟩⟩

/-- What shows a position also denotes it. -/
theorem ShowsPosition.denotes {v : Json} {p : Position} (h : ShowsPosition v p) :
    DenotesPosition v p :=
  .object h.line_eq h.character_eq rfl rfl

theorem ShowsRange.denotes {v : Json} {r : Range} (h : ShowsRange v r) : DenotesRange v r := by
  obtain ⟨start, hstart, hshowsStart⟩ := h.exists_start
  obtain ⟨stop, hstop, hshowsStop⟩ := h.exists_stop
  exact .object hstart hstop hshowsStart.denotes hshowsStop.denotes

/-- What matters of a position. -/
def Position.essential : Json → Json :=
  Json.trim ["line", "character"] id

/-- What matters of a range. -/
def Range.essential : Json → Json :=
  Json.trim ["start", "end"] Position.essential

theorem Position.decode_essential (v : Json) :
    Position.decode (Position.essential v) = Position.decode v :=
  decode_pair_trim (fun _ => rfl) (fun _ => rfl) "Position" v

/-- A range is decoded, or fails to be, as if nothing but its parts were there. -/
theorem Range.decode_essential (v : Json) : Range.decode (Range.essential v) = Range.decode v :=
  decode_pair_trim Position.decode_essential Position.decode_essential "Range" v

/-! ## One argument -/

theorem mapError_eq_ok_iff {α ε ε' : Type} {x : Except ε α} {f : ε → ε'} {a : α} :
    x.mapError f = .ok a ↔ x = .ok a := by
  cases x with
  | error e => exact ⟨nofun, nofun⟩
  | ok b =>
    exact ⟨fun h => congrArg Except.ok (Except.ok.inj h),
      fun h => congrArg Except.ok (Except.ok.inj h)⟩

theorem url_eq_ok_iff {v : Json} {uri : Url} :
    url v = .ok uri ↔ ∃ text, v = .str text ∧ Url.parse text = .ok uri := by
  cases v with
  | str text => simp only [url, mapError_eq_ok_iff, Json.str.injEq, exists_eq_left']
  | _ => simp [url]

section Positional

variable {α : Type} {arguments : List Json} {index : Nat} {name : String} {decode : Decoder α}

theorem positional_eq_ok_iff {a : α} :
    positional arguments index name decode = .ok a ↔
      ∃ v, arguments[index]? = some v ∧ decode v = .ok a := by
  unfold positional
  cases arguments[index]? with
  | none => simp
  | some v => cases h : decode v <;> simp [h]

/-- An argument is refused because it is missing, or because it does not decode. -/
theorem positional_eq_error {e : ArgumentError}
    (h : positional arguments index name decode = .error e) :
    (arguments[index]? = none ∧ e = .missing index name) ∨
      ∃ v cause, arguments[index]? = some v ∧ decode v = .error cause ∧
      e = .malformed index name cause := by
  unfold positional at h
  split at h
  · next hnone => exact Or.inl ⟨hnone, (Except.error.inj h).symm⟩
  · next v hv =>
    split at h
    · cases h
    · next cause hcause => exact Or.inr ⟨v, cause, hv, hcause, (Except.error.inj h).symm⟩

end Positional

namespace Command

/-! ## The arguments that are accepted -/

/-- The arguments denote a document and a range in it, whatever follows them. -/
def DenotesTarget (arguments : List Json) (uri : Url) (range : Range) : Prop :=
  ∃ text v rest, arguments = .str text :: v :: rest ∧ Url.parse text = .ok uri ∧
    DenotesRange v range

theorem lowerCaseArguments_eq_ok_iff {arguments : List Json} {uri : Url} {range : Range} :
    lowerCaseArguments arguments = .ok (.lowerCase uri range) ↔
      DenotesTarget arguments uri range := by
  constructor
  · intro h
    obtain ⟨uri', huri, h⟩ := bind_eq_ok h
    obtain ⟨range', hrange, h⟩ := bind_eq_ok h
    cases h
    obtain ⟨a, ha, hurl⟩ := positional_eq_ok_iff.mp huri
    obtain ⟨v, hv, hdecode⟩ := positional_eq_ok_iff.mp hrange
    obtain ⟨text, rfl, hparse⟩ := url_eq_ok_iff.mp hurl
    rcases arguments with _ | ⟨a, _ | ⟨b, rest⟩⟩
    · cases ha
    · cases hv
    · cases ha
      cases hv
      exact ⟨text, v, rest, rfl, hparse, Range.decode_eq_ok_iff.mp hdecode⟩
  · rintro ⟨text, v, rest, rfl, hparse, hrange⟩
    have huri : positional (.str text :: v :: rest) 0 "uri" url = .ok uri :=
      positional_eq_ok_iff.mpr ⟨_, rfl, url_eq_ok_iff.mpr ⟨text, rfl, hparse⟩⟩
    have hrange : positional (.str text :: v :: rest) 1 "range" Range.decode = .ok range :=
      positional_eq_ok_iff.mpr ⟨_, rfl, Range.decode_eq_ok_iff.mpr hrange⟩
    rw [lowerCaseArguments, huri, hrange]
    rfl

/-! ## The argument that is refused -/

/-- The parameters of the command in their order, each with its name and the values that will do. -/
def parameters : List (String × (Json → Prop)) :=
  [("uri", fun v => ∃ text uri, v = .str text ∧ Url.parse text = .ok uri),
    ("range", fun v => ∃ range, DenotesRange v range)]

/-- Every argument before an index is there and will do. -/
def GoodBefore (arguments : List Json) (index : Nat) : Prop :=
  ∀ i < index, ∀ name accepts, parameters[i]? = some (name, accepts) →
    ∃ v, arguments[i]? = some v ∧ accepts v

/-- The text names the first argument that is missing or malformed. -/
inductive NamesFirstBad (arguments : List Json) : String → Prop where
  | missing {index : Nat} {name : String} {accepts : Json → Prop}
    (hparameter : parameters[index]? = some (name, accepts)) (hbefore : GoodBefore arguments index)
    (h : arguments[index]? = none) :
    NamesFirstBad arguments ("missing argument " ++ toString index ++ " (" ++ name ++ ")")
  | malformed {index : Nat} {name : String} {accepts : Json → Prop} {v : Json}
    (hparameter : parameters[index]? = some (name, accepts)) (hbefore : GoodBefore arguments index)
    (h : arguments[index]? = some v) (hv : ¬accepts v) (cause : String) :
    NamesFirstBad arguments ("argument " ++ toString index ++ " (" ++ name ++ "): " ++ cause)

/-- A parameter for which the argument is refused is named, if the arguments before it will do. -/
theorem namesFirstBad_of_positional {α : Type} {arguments : List Json} {index : Nat} {name : String}
    {accepts : Json → Prop} {decode : Decoder α} {e : ArgumentError}
    (hparameter : parameters[index]? = some (name, accepts))
    (haccepts : ∀ v, accepts v → ∃ a, decode v = .ok a) (hbefore : GoodBefore arguments index)
    (h : positional arguments index name decode = .error e) :
    NamesFirstBad arguments e.message := by
  rcases positional_eq_error h with ⟨hnone, rfl⟩ | ⟨v, cause, hv, hdecode, rfl⟩
  · exact .missing hparameter hbefore hnone
  · refine .malformed hparameter hbefore hv (fun hgood => ?_) cause.message
    obtain ⟨a, ha⟩ := haccepts v hgood
    cases ha.symm.trans hdecode

theorem namesFirstBad_of_error {arguments : List Json} {e : ArgumentError}
    (h : lowerCaseArguments arguments = .error e) : NamesFirstBad arguments e.message := by
  have hnothing : GoodBefore arguments 0 := fun i hi => absurd hi (Nat.not_lt_zero i)
  have hurl : ∀ v, (∃ text uri, v = .str text ∧ Url.parse text = .ok uri) →
      ∃ uri, url v = .ok uri := by
    rintro v ⟨text, uri, hv, hparse⟩
    exact ⟨uri, url_eq_ok_iff.mpr ⟨text, hv, hparse⟩⟩
  have hdecode : ∀ v, (∃ range, DenotesRange v range) → ∃ range, Range.decode v = .ok range := by
    rintro v ⟨range, hrange⟩
    exact ⟨range, Range.decode_eq_ok_iff.mpr hrange⟩
  cases huri : positional arguments 0 "uri" url with
  | error e' =>
    rw [lowerCaseArguments, huri] at h
    cases h
    exact namesFirstBad_of_positional rfl hurl hnothing huri
  | ok uri =>
    have hfirst : GoodBefore arguments 1 := by
      intro i hi name accepts hparameter
      obtain rfl : i = 0 := by omega
      cases hparameter
      obtain ⟨v, hv, hu⟩ := positional_eq_ok_iff.mp huri
      obtain ⟨text, htext, hparse⟩ := url_eq_ok_iff.mp hu
      exact ⟨v, hv, text, uri, htext, hparse⟩
    cases hrange : positional arguments 1 "range" Range.decode with
    | error e' =>
      rw [lowerCaseArguments, huri, hrange] at h
      cases h
      exact namesFirstBad_of_positional rfl hdecode hfirst hrange
    | ok range =>
      rw [lowerCaseArguments, huri, hrange] at h
      cases h

/-! ## What else is among the arguments -/

/-- What matters of the arguments : the first two, and of the range its parts. -/
def essentialArguments : List Json → List Json
  | uri :: range :: _ => [uri, Range.essential range]
  | arguments => arguments

theorem lowerCaseArguments_essential (arguments : List Json) :
    lowerCaseArguments (essentialArguments arguments) = lowerCaseArguments arguments := by
  rcases arguments with _ | ⟨a, _ | ⟨b, rest⟩⟩
  · rfl
  · rfl
  · have huri : positional [a, Range.essential b] 0 "uri" url =
      positional (a :: b :: rest) 0 "uri" url := rfl
    have hrange : positional [a, Range.essential b] 1 "range" Range.decode =
        positional (a :: b :: rest) 1 "range" Range.decode := by
      simp [positional, Range.decode_essential]
    rw [essentialArguments, lowerCaseArguments, lowerCaseArguments, huri, hrange]

/-! ## The command -/

theorem parse_of_ne {name : String} (h : name ≠ "myToLowerCase") (arguments : List Json) :
    parse name arguments = .ok none :=
  if_neg h

theorem parse_lowerCase (arguments : List Json) :
    parse "myToLowerCase" arguments = match lowerCaseArguments arguments with
      | .ok c => .ok (some c)
      | .error e => .error (.invalidArguments "myToLowerCase" e.message) :=
  if_pos rfl

/-- The command that the server has is accepted for what its arguments denote. -/
theorem parse_eq_some_iff {arguments : List Json} {uri : Url} {range : Range} :
    parse "myToLowerCase" arguments = .ok (some (.lowerCase uri range)) ↔
      DenotesTarget arguments uri range := by
  rw [← lowerCaseArguments_eq_ok_iff, parse_lowerCase]
  cases lowerCaseArguments arguments <;> simp

/-- Arguments that denote nothing are refused, and the first bad one is named. -/
theorem exists_parse_eq_error {arguments : List Json}
    (h : ∀ uri range, ¬DenotesTarget arguments uri range) :
    ∃ reason, parse "myToLowerCase" arguments = .error (.invalidArguments "myToLowerCase" reason) ∧
      NamesFirstBad arguments reason := by
  rw [parse_lowerCase]
  cases hc : lowerCaseArguments arguments with
  | ok c =>
    cases c with
    | lowerCase uri range => exact absurd (lowerCaseArguments_eq_ok_iff.mp hc) (h uri range)
  | error e => exact ⟨e.message, rfl, namesFirstBad_of_error hc⟩

/-- A command that the server does not have is ignored, whatever its arguments. The one that it has
is accepted for a document and a range if and only if the arguments denote them, and otherwise it is
refused for the first argument that is missing or malformed. Other members of objects and later
arguments never make a difference. -/
theorem parse_accepts_exactly (name : String) (arguments : List Json) :
    (name ≠ "myToLowerCase" → parse name arguments = .ok none) ∧
    (name = "myToLowerCase" →
      (∀ uri range, parse name arguments = .ok (some (.lowerCase uri range)) ↔
        DenotesTarget arguments uri range) ∧
      ((∀ uri range, ¬DenotesTarget arguments uri range) →
        ∃ reason, parse name arguments = .error (.invalidArguments name reason) ∧
        NamesFirstBad arguments reason)) ∧
    parse name (essentialArguments arguments) = parse name arguments := by
  refine ⟨fun hname => parse_of_ne hname arguments, ?_, ?_⟩
  · rintro rfl
    exact ⟨fun uri range => parse_eq_some_iff, exists_parse_eq_error⟩
  · simp only [parse, lowerCaseArguments_essential]

-- Where both arguments are bad, the first one is reported.
example : parse "myToLowerCase" [.int 42, .null] = .error (.invalidArguments "myToLowerCase"
    "argument 0 (uri): invalid type: integer `42`, expected a string representing an URL") := rfl

/-! ## The way to the client and back -/

/-- The arguments of a quick fix denote what it was made for, if the URL of its document is one. -/
theorem denotesTarget_encode {uri : Url} (h : Url.parse uri.text = .ok uri) (range : Range) :
    DenotesTarget [uri.encode, range.encode] uri range :=
  ⟨uri.text, range.encode, [], rfl, h, (showsRange_encode range).denotes⟩

/-- The value is an edit that puts a text in the place of a range of one
document, and no other edit. -/
def ReplacesRange (uri : Url) (range : Range) (text : String) (edit : Json) : Prop :=
  ∃ place, ShowsRange place range ∧
    edit = .obj [("changes",
      .obj [(uri.text, .arr [.obj [("range", place), ("newText", .str text)]])])]

/-- The edit of a command puts `foo` in the place of its range. -/
theorem replacesRange_edit (uri : Url) (range : Range) :
    ReplacesRange uri range "foo" (lowerCase uri range).edit.encode :=
  ⟨range.encode, showsRange_encode range, rfl⟩

end Command
end Majuscule
