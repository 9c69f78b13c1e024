import Majuscule.Json

/-!
# JSON text of a value

`Json.compress` writes a value without blanks, the members of an object in the order in which they
are kept. Floating-point numbers are written with the fewest digits that read back and always look
like floating-point numbers.
-/

namespace Majuscule.Json

/--
Floating-point numbers are written without exponent from a ten-thousandth of a tenth up to sixteen
digits, an integer then ends in `.0`, and a non-negative exponent has its sign.
-/
def floatLayout : Number.Layout := ⟨-5, 16, ".0", "+"⟩

/-- The text of a floating-point number. -/
def floatText (x : Number.Binary64) : String :=
  floatLayout.render x

/-- A number below sixteen as a hexadecimal digit. -/
def hexDigit (n : Nat) : Char :=
  Nat.digitChar n

/-- A character as it stands in a JSON string. -/
def escape (c : Char) : List Char :=
  if c = '"' then ['\\', '"']
  else if c = '\\' then ['\\', '\\']
  else if c = '\n' then ['\\', 'n']
  else if c = '\r' then ['\\', 'r']
  else if c = '\t' then ['\\', 't']
  else if c = '\x08' then ['\\', 'b']
  else if c = '\x0c' then ['\\', 'f']
  else if c.toNat < 0x20 then ['\\', 'u', '0', '0', hexDigit (c.toNat / 16),
    hexDigit (c.toNat % 16)]
  else [c]

/-- A string as JSON text. -/
def stringText (s : String) : String :=
  String.ofList ('"' :: (s.toList.flatMap escape ++ ['"']))

mutual

/-- The text of a value, without blanks. -/
def compress : Json → String
  | null => "null"
  | bool b => if b then "true" else "false"
  | int n => toString n
  | float x => floatText x
  | str s => stringText s
  | arr items => "[" ++ compressItems items ++ "]"
  | obj members => "\x7b" ++ compressMembers members ++ "\x7d"

/-- The items of an array, divided by commas. -/
def compressItems : List Json → String
  | [] => ""
  | [v] => compress v
  | v :: w :: rest => compress v ++ "," ++ compressItems (w :: rest)

/-- The members of an object, divided by commas. -/
def compressMembers : List (String × Json) → String
  | [] => ""
  | [(key, v)] => stringText key ++ ":" ++ compress v
  | (key, v) :: m :: rest =>
    stringText key ++ ":" ++ compress v ++ "," ++ compressMembers (m :: rest)

end

end Majuscule.Json
