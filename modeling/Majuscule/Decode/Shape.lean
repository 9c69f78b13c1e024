import Majuscule.Decode.Record

/-!
# Shapes of records

Much of what a client sends is checked and then not used. A `Shape` is a record of which nothing is
kept: it is put together from a list of fields that have to be there (`has`), may be there (`may`)
or have a value of their own when they are absent (`mayLack`), and decodes like any other record
(`shape`). Structures that come as objects only and spread groups of fields over their own are
checked by `spread`: first their own fields, then one group after another.
-/

namespace Majuscule.Decode

open Record

/-- A record of which nothing is kept. -/
abbrev Shape := Record Unit

/-- Forget the value of a record. -/
def forget (r : Record α) : Shape :=
  (fun _ => ()) <$> r

/-- A field that has to be there. -/
def has (name : String) (decode : Decoder α) : Shape :=
  forget (required name decode)

/-- A field that may be absent or null; in an array it still has its element. -/
def may (name : String) (decode : Decoder α) : Shape :=
  forget (optional name decode)

/-- A field that may be absent or null, and in an array may also lack its element. -/
def mayLack (name : String) (decode : Decoder α) : Shape :=
  forget (defaulted name none (nullable decode))

/-- Several fields, one after another. -/
def fields : List Shape → Shape
  | [] => Record.const ()
  | f :: rest => (fun _ _ => ()) <$> f <*> fields rest

/-- A structure with the given fields. -/
def shape (name : String) (fs : List Shape) : Decoder Unit :=
  (fields fs).decode name

/-- Check groups of fields, one after another. -/
def checkGroups (members : List (String × Json)) : List Shape → Except DecodeError Unit
  | [] => .ok ()
  | g :: rest => do
    g.group members
    checkGroups members rest

/-- A structure with fields of its own and groups of fields that are spread over them. -/
def spread (name : String) (own groups : List Shape) : Decoder Unit :=
  decodeObject name fun members => do
    (fields own).read members
    checkGroups members groups

/-- Check each value of an object whose keys are not fixed. -/
def eachMember (key : Decoder α) (value : Decoder β) :
    List (String × Json) → Except DecodeError Unit
  | [] => .ok ()
  | (name, v) :: rest => do
    let _ ← key (.str name)
    let _ ← value v
    eachMember key value rest

/-- An object whose keys are not fixed. -/
def dictionary (expected : String) (key : Decoder α) (value : Decoder β) : Decoder Unit
  | .obj members => eachMember key value members
  | v => .error (.wrongType v expected)

/-- Forget the value that a decoder reads. -/
def ignoring (decode : Decoder α) : Decoder Unit :=
  fun v => (decode v).map fun _ => ()

/-- A text or something else. -/
def textOr (name : String) (other : Decoder α) : Decoder Unit :=
  union name (ignoring text) (ignoring other)

/-- The names of choices, of which nothing is kept. -/
def oneOf (choices : List String) : Decoder Unit :=
  choice (choices.map fun c => (c, ()))

end Majuscule.Decode
