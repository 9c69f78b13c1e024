import Majuscule.Decode.Error

/-!
# Decoders for scalars, lists and unions

The building blocks of records: texts, truth values, bounded integers, URLs, lists, texts with a
fixed set of choices, and unions whose alternatives are tried in order.
-/

namespace Majuscule.Decode

/-- Any value at all. -/
def any : Decoder Json := fun v => .ok v

/-- A text. -/
def text : Decoder String
  | .str s => .ok s
  | v => .error (.wrongType v "a string")

/-- A truth value. -/
def boolean : Decoder Bool
  | .bool b => .ok b
  | v => .error (.wrongType v "a boolean")

/-- An integer from `low` up to, but not including, `high`. -/
def integer (low high : Int) (expected : String) : Decoder Int
  | .int n => if low ≤ n ∧ n < high then .ok n else .error (.outOfRange n expected)
  | v => .error (.wrongType v expected)

/-- An unsigned 32-bit integer. -/
def uint32 : Decoder UInt32 := fun v =>
  (integer 0 0x100000000 "u32" v).map fun n => n.toNat.toUInt32

/-- Every unsigned 32-bit integer decodes to itself. -/
theorem uint32_nat (n : UInt32) : uint32 (.nat n.toNat) = .ok n := by
  have hn := n.toNat_lt
  have hr : integer 0 0x100000000 "u32" (.int n.toNat) = .ok (n.toNat : Int) := by
    unfold integer
    exact if_pos ⟨by omega, by omega⟩
  unfold uint32
  rw [show Json.nat n.toNat = .int n.toNat from rfl, hr]
  simp [Except.map]

/-- A signed 32-bit integer. -/
def int32 : Decoder Int32 := fun v =>
  (integer (-0x80000000) 0x80000000 "i32" v).map Int32.ofInt

/-- Every signed 32-bit integer decodes to itself. -/
theorem int32_toInt (n : Int32) : int32 (.int n.toInt) = .ok n := by
  have hlow := n.le_toInt
  have hhigh := n.toInt_lt
  have hr : integer (-0x80000000) 0x80000000 "i32" (.int n.toInt) = .ok n.toInt := by
    unfold integer
    exact if_pos ⟨by omega, by omega⟩
  unfold int32
  rw [hr]
  simp [Except.map]

/-- A size: an unsigned 64-bit integer. -/
def size : Decoder Nat := fun v =>
  (integer 0 0x10000000000000000 "usize" v).map Int.toNat

/-- A number of any kind, for a field of single precision. -/
def single : Decoder Json
  | .int n => .ok (.int n)
  | .float x => .ok (.float x)
  | v => .error (.wrongType v "f32")

/-- A URL. -/
def url : Decoder Url
  | .str s => (Url.parse s).mapError fun e => .badUrl e s
  | v => .error (.wrongType v "a string representing an URL")

/-- Decode each of several values, the first failure wins. -/
def each (decode : Decoder α) : List Json → Except DecodeError (List α)
  | [] => .ok []
  | v :: rest => do
    let a ← decode v
    let as ← each decode rest
    return a :: as

/-- A list of values. -/
def list (decode : Decoder α) : Decoder (List α)
  | .arr items => each decode items
  | v => .error (.wrongType v "a sequence")

/-- Absent for null. -/
def nullable (decode : Decoder α) : Decoder (Option α)
  | .null => .ok none
  | v => (decode v).map some

/-- The first of two alternatives that fits. -/
def union (name : String) (first second : Decoder α) : Decoder α := fun v =>
  match first v, second v with
  | .ok a, _ => .ok a
  | .error _, .ok a => .ok a
  | .error _, .error _ => .error (.noAlternative name)

/-- One of the named choices. -/
def named (text : String) (choices : List (String × α)) : Except DecodeError α :=
  match choices.lookup text with
  | some a => .ok a
  | none => .error (.unknownChoice text (choices.map Prod.fst))

/-- A text with a fixed set of choices; an object with the choice as its only key, and
nothing under it, will do. -/
def choice (choices : List (String × α)) : Decoder α
  | .str s => named s choices
  | .obj [(key, v)] =>
    match named key choices, v with
    | .ok a, .null => .ok a
    | .ok _, v => .error (.wrongType v "unit")
    | .error e, _ => .error e
  | .obj _ => .error (.wrongMap "map with a single key")
  | v => .error (.wrongType v "string or map")

end Majuscule.Decode
