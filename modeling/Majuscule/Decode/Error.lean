import Majuscule.Json.Printer
import Majuscule.Text.Quoted
import Majuscule.Url

/-!
# Why a value does not decode

A `DecodeError` is the cause for which a JSON value is not the protocol value it should be;
`message` is its wording, which clients see in error replies and users in the log.
-/

namespace Majuscule

/-- Why a JSON value is not the protocol value it should be. -/
inductive DecodeError where
  /-- The value is of another type than `expected`. -/
  | wrongType (found : Json) (expected : String)
  /-- The integer lies outside the range of `expected`. -/
  | outOfRange (n : Int) (expected : String)
  /-- The object is not one that `expected` describes. -/
  | wrongMap (expected : String)
  /-- The object lacks a field. -/
  | missingField (name : String)
  /-- The array has no element for the field at `position` of a record with `size` fields. -/
  | tooShort (position : Nat) (record : String) (size : Nat)
  /-- The array has `length` elements, of which the record takes only `size`. -/
  | tooLong (length size : Nat)
  /-- The same for a record that is spread over the fields of another one. -/
  | tooLongInGroup (length size : Nat)
  /-- The value fits none of the alternatives of a union. -/
  | noAlternative (union : String)
  /-- The text names none of the choices. -/
  | unknownChoice (text : String) (choices : List String)
  /-- The text is not a URL. -/
  | badUrl (cause : Url.ParseError) (text : String)
  deriving Repr

namespace DecodeError

/-- A value as a message names it. -/
def describe : Json → String
  | .null => "null"
  | .bool b => "boolean `" ++ (if b then "true" else "false") ++ "`"
  | .int n => "integer `" ++ toString n ++ "`"
  | .float x => "floating point `" ++ Json.floatText x ++ "`"
  | .str s => "string " ++ Text.quoted s
  | .arr _ => "sequence"
  | .obj _ => "map"

/-- A count of elements. -/
def elements (n : Nat) : String :=
  if n = 1 then "1 element" else toString n ++ " elements"

/-- The choices of a text, each in backticks. -/
def choicesText (choices : List String) : String :=
  match choices.map fun c => "`" ++ c ++ "`" with
  | [a, b] => "expected " ++ a ++ " or " ++ b
  | [a] => "expected " ++ a
  | quoted => "expected one of " ++ ", ".intercalate quoted

/-- The wording of a decoding error. -/
def message : DecodeError → String
  | wrongType found expected => "invalid type: " ++ describe found ++ ", expected " ++ expected
  | outOfRange n expected => "invalid value: integer `" ++ toString n ++ "`, expected " ++ expected
  | wrongMap expected => "invalid value: map, expected " ++ expected
  | missingField name => "missing field `" ++ name ++ "`"
  | tooShort position record size =>
    "invalid length " ++ toString position ++ ", expected struct " ++ record ++ " with " ++
      elements size
  | tooLong length _ => "invalid length " ++ toString length ++ ", expected fewer elements in array"
  | tooLongInGroup length size =>
    "invalid length " ++ toString length ++ ", expected " ++ elements size ++ " in sequence"
  | noAlternative union => "data did not match any variant of untagged enum " ++ union
  | unknownChoice text choices => "unknown variant `" ++ text ++ "`, " ++ choicesText choices
  | badUrl cause text => cause.message ++ ": " ++ Text.quoted text

/-- The error as it is reported for a group of fields that is spread over the
fields of another record. -/
def inGroup : DecodeError → DecodeError
  | tooLong length size => tooLongInGroup length size
  | e => e

end DecodeError

/-- Reads a protocol value from a JSON value. -/
abbrev Decoder (α : Type) := Json → Except DecodeError α

end Majuscule
