import Majuscule.Number.Digits

/-!
# Percent-encoding

A character that may not stand in some part of a URL is written as its UTF-8 bytes, each as a
percent sign and two upper-case hexadecimal digits. Which characters those are depends on the part;
the sets grow from the control characters to the set for user names. Characters outside ASCII are
always encoded.
-/

namespace Majuscule.Url.Percent

open Number

/-- Control characters and everything outside ASCII. -/
def control (c : Char) : Bool :=
  c.toNat < 0x20 || 0x7E < c.toNat

/-- What is encoded in a fragment. -/
def fragment (c : Char) : Bool :=
  control c || c = ' ' || c = '"' || c = '<' || c = '>' || c = '\x60'

/-- What is encoded in a query; a URL with a special scheme also encodes the apostrophe. -/
def query (special : Bool) (c : Char) : Bool :=
  control c || c = ' ' || c = '"' || c = '#' || c = '<' || c = '>' || (special && c = '\x27')

/-- What is encoded in a path. -/
def path (c : Char) : Bool :=
  fragment c || c = '#' || c = '?' || c = '\x7b' || c = '\x7d'

/-- What is encoded in a user name or password. -/
def userinfo (c : Char) : Bool :=
  path c || c = '/' || c = ':' || c = ';' || c = '=' || c = '@' || c = '[' || c = '\\' || c = ']' ||
    c = '^' || c = '|'

def hexDigit (n : Nat) : Char :=
  (Nat.digitChar n).toUpper

/-- One byte as a percent sign and two digits. -/
def byte (b : UInt8) : List Char :=
  ['%', hexDigit (b.toNat / 16), hexDigit (b.toNat % 16)]

/-- A character, encoded if `set` holds it. -/
def encodeChar (set : Char → Bool) (c : Char) : List Char :=
  if set c then (String.singleton c).toUTF8.toList.flatMap byte else [c]

/-- A text with the characters of `set` encoded. -/
def encode (set : Char → Bool) (cs : List Char) : List Char :=
  cs.flatMap (encodeChar set)

/-- The bytes of a text with its escapes decoded; a percent sign that starts no escape stays. -/
def decode : List Char → List UInt8
  | '%' :: a :: b :: rest =>
    match hexValue? a, hexValue? b with
    | some x, some y => (x * 16 + y).toUInt8 :: decode rest
    | _, _ => '%'.toNat.toUInt8 :: decode (a :: b :: rest)
  | c :: rest => (String.singleton c).toUTF8.toList ++ decode rest
  | [] => []

end Majuscule.Url.Percent
