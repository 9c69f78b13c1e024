import Majuscule.Decode.Scalar

/-!
# Decoders for records

A `Record` describes a protocol structure once, as its fields in order of declaration, and reads it
in two forms. From an object (`Record.ofMembers`) the fields are found by name: if several fail, the
one with the least key is reported, and only if none fails the first missing one. From an array
(`Record.ofElements`) they are taken one after another, and every field that has no default needs
its element; the first one that has none is reported by its position.

Records are built with the applicative operators from `required`, `optional` and `defaulted` fields.
`Record.decode` takes both forms; some structures come as objects only (`Record.decodeObject`) and
spread groups of fields over those of another (`Record.group`).
-/

namespace Majuscule.Decode

/-- What comes of reading fields from an object. -/
inductive Reading (α : Type) where
  | done (value : α)
  | missing (name : String)
  | failed (key : String) (error : DecodeError)

namespace Reading

/-- Put two readings together: the failure with the lesser key, else the first missing
field, else both values. -/
def seq : Reading (α → β) → Reading α → Reading β
  | failed key e, failed key' e' => if key' < key then failed key' e' else failed key e
  | failed key e, _ => failed key e
  | _, failed key e => failed key e
  | missing name, _ => missing name
  | _, missing name => missing name
  | done f, done a => done (f a)

/-- The value, or the error that is reported. -/
def toExcept : Reading α → Except DecodeError α
  | done a => .ok a
  | missing name => .error (.missingField name)
  | failed _ e => .error e

end Reading

/-- Why elements of an array do not make a record. -/
inductive ElementError where
  /-- There is no element for the field at `position`, which needs one. -/
  | exhausted (position : Nat)
  | bad (error : DecodeError)

/-- The error as seen from `count` fields earlier. -/
def ElementError.shift (count : Nat) : ElementError → ElementError
  | exhausted position => exhausted (count + position)
  | bad error => bad error

/-- The description of a record. -/
structure Record (α : Type) where
  /-- How many fields there are. -/
  size : Nat
  /-- Read the fields from the members of an object. -/
  ofMembers : List (String × Json) → Reading α
  /-- Read the fields from elements in order, and return the elements that are left. -/
  ofElements : List Json → Except ElementError (α × List Json)

namespace Record

/-- No fields. -/
def const (a : α) : Record α where
  size := 0
  ofMembers _ := .done a
  ofElements elements := .ok (a, elements)

/-- The fields of two records, one after the other. -/
def seq (f : Record (α → β)) (x : Record α) : Record β where
  size := f.size + x.size
  ofMembers members := (f.ofMembers members).seq (x.ofMembers members)
  ofElements elements :=
    match f.ofElements elements with
    | .error e => .error e
    | .ok (g, elements) =>
      match x.ofElements elements with
      | .error e => .error (e.shift f.size)
      | .ok (a, elements) => .ok (g a, elements)

instance : Applicative Record where
  pure := Record.const
  seq f x := Record.seq f (x ())

/-- One field: `absent` is what it reads as when the object has no such member. -/
def field (name : String) (absent : Reading α) (exhausted : Except ElementError α)
    (decode : Decoder α) : Record α where
  size := 1
  ofMembers members :=
    match members.lookup name with
    | none => absent
    | some v =>
      match decode v with
      | .ok a => .done a
      | .error e => .failed name e
  ofElements
    | [] => exhausted.map fun a => (a, [])
    | v :: rest =>
      match decode v with
      | .ok a => .ok (a, rest)
      | .error e => .error (.bad e)

theorem ofMembers_map (f : α → β) (r : Record α) (members : List (String × Json)) :
    (f <$> r).ofMembers members = (Reading.done f).seq (r.ofMembers members) := rfl

theorem ofMembers_seq (f : Record (α → β)) (r : Record α) (members : List (String × Json)) :
    (f <*> r).ofMembers members = (f.ofMembers members).seq (r.ofMembers members) := rfl

/-- A field that has to be there. -/
def required (name : String) (decode : Decoder α) : Record α :=
  field name (.missing name) (.error (.exhausted 0)) decode

/-- A field that may be absent or null; in an array it still has its element. -/
def optional (name : String) (decode : Decoder α) : Record (Option α) :=
  field name (.done none) (.error (.exhausted 0)) (nullable decode)

/-- A field with a value of its own when it is absent, in either form. -/
def defaulted (name : String) (value : α) (decode : Decoder α) : Record α :=
  field name (.done value) (.ok value) decode

/-- A field that has to be there is read from the first member with its name. -/
theorem ofMembers_required {name : String} {decode : Decoder α} {members : List (String × Json)}
    {v : Json} {a : α} (h : members.lookup name = some v) (hv : decode v = .ok a) :
    (required name decode).ofMembers members = .done a := by
  simp [required, field, h, hv]

/-- Read the fields of an object. -/
def read (r : Record α) (members : List (String × Json)) : Except DecodeError α :=
  (r.ofMembers members).toExcept

/-- Read the elements of an array, all of them. -/
def readElements (r : Record α) (name : String) (elements : List Json) : Except DecodeError α :=
  match r.ofElements elements with
  | .error (.exhausted position) => .error (.tooShort position name r.size)
  | .error (.bad e) => .error e
  | .ok (a, []) => .ok a
  | .ok (_, rest) => .error (.tooLong elements.length (elements.length - rest.length))

/-- A record in either form. -/
def decode (r : Record α) (name : String) : Decoder α
  | .obj members => r.read members
  | .arr elements => r.readElements name elements
  | v => .error (.wrongType v ("struct " ++ name))

/-- A structure that comes as an object only. -/
def decodeObject (name : String) (read : List (String × Json) → Except DecodeError α) : Decoder α
  | .obj members => read members
  | v => .error (.wrongType v ("struct " ++ name))

/-- A group of fields that is spread over those of another structure. -/
def group (r : Record α) (members : List (String × Json)) : Except DecodeError α :=
  (r.read members).mapError DecodeError.inGroup

end Record
end Majuscule.Decode
