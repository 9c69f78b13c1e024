import Majuscule.Number.Decimal

/-!
# JSON values

Integers and floating-point numbers are kept apart, because the protocol tells `1` from `1.0`. An
object is the list of its members; the *canonical* objects list them in ascending order of their
keys, each key once (`canonical`). Reading an object never depends on that order: `get?` finds the
first member with a key.

`Json.object` builds an object from optional members and leaves the absent ones out, which is how
every protocol value with optional fields is written.
-/

namespace Majuscule

/-- A JSON value. -/
inductive Json where
  | null
  | bool (value : Bool)
  | int (value : Int)
  | float (value : Number.Binary64)
  | str (value : String)
  | arr (items : List Json)
  | obj (members : List (String × Json))
  deriving Repr, Inhabited

namespace Json

/-- The value of the first member with key `key`, if `v` is an object that has one. -/
def get? (v : Json) (key : String) : Option Json :=
  match v with
  | obj members => members.lookup key
  | _ => none

/-- An object with the members that are present. -/
def object (members : List (String × Option Json)) : Json :=
  obj (members.filterMap fun m => m.2.map fun v => (m.1, v))

/-- A natural number. -/
def nat (n : Nat) : Json :=
  int n

/-- Put a member into a list in ascending order of keys, in the place of one with the same key. -/
def insertMember (key : String) (v : Json) : List (String × Json) → List (String × Json)
  | [] => [(key, v)]
  | m :: rest =>
    if key < m.1 then (key, v) :: m :: rest
    else if key = m.1 then (key, v) :: rest
    else m :: insertMember key v rest

mutual

/-- The value with every object in ascending order of keys; of several members with one
key the last is kept. -/
def canonical : Json → Json
  | arr items => arr (canonicalItems items)
  | obj members => obj (canonicalMembers members [])
  | null => null
  | bool b => bool b
  | int n => int n
  | float x => float x
  | str s => str s

/-- `canonical` for each of several values. -/
def canonicalItems : List Json → List Json
  | [] => []
  | v :: rest => canonical v :: canonicalItems rest

/-- `canonical` for the members of an object, put into the members `acc` that came before. -/
def canonicalMembers : List (String × Json) → List (String × Json) → List (String × Json)
  | [], acc => acc
  | (key, v) :: rest, acc => canonicalMembers rest (insertMember key (canonical v) acc)

end

end Json
end Majuscule
