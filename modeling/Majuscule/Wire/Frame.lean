import Majuscule.Number.Digits
import Majuscule.Text.Blank
import Majuscule.Text.Pieces

/-!
# Frames

On the wire each message is a body of a given number of bytes after a block of header lines.
`Frame.next` takes the first message from the bytes that have come in: it may be incomplete, or it
may be malformed, which is known as soon as the bytes read so far can start no block of headers.

A block has one or two headers. It has to give the length of the body; if it gives the type of the
content, the character set has to be UTF-8.
-/

namespace Majuscule.Wire

open Text

/-- A header line: its name and the bytes of its value. -/
structure Header where
  name : String
  value : List UInt8
  deriving DecidableEq, Repr

/-- What comes of reading a block of headers. -/
inductive HeaderBlock where
  | incomplete
  | malformed
  | complete (headers : List Header) (rest : List UInt8)

namespace Header

/-- How many headers a block may have. -/
def limit : Nat := 2

/-- Characters of a header's name. -/
def isNameByte (b : UInt8) : Bool :=
  let c := Char.ofNat b.toNat
  c.isAlphanum || ['!', '#', '$', '%', '&', '\x27', '*', '+', '-', '.', '^', '_', '\x60', '|',
    '~'].contains c

/-- Characters of a header's value. -/
def isValueByte (b : UInt8) : Bool :=
  b = 9 || (32 ≤ b && b ≠ 127)

def isBlankByte (b : UInt8) : Bool :=
  b = 32 || b = 9

/-- ASCII as a text. -/
def ofBytes (bytes : List UInt8) : String :=
  String.ofList (bytes.map fun b => Char.ofNat b.toNat)

/-- The value as a text, if it is one. -/
def text? (h : Header) : Option String :=
  String.fromUTF8? ⟨h.value.toArray⟩

/-- A value without the blanks around it. -/
def trim (bytes : List UInt8) : List UInt8 :=
  (((bytes.dropWhile isBlankByte).reverse).dropWhile isBlankByte).reverse

/-- The header lines at the front, up to an empty line; `room` more of them are allowed. -/
def block (done : List Header) : (room : Nat) → List UInt8 → HeaderBlock
  | _, [] => .incomplete
  | _, [13] => .incomplete
  | _, 13 :: 10 :: rest => .complete done.reverse rest
  | _, 10 :: rest => .complete done.reverse rest
  | 0, _ => .malformed
  | room + 1, bytes =>
    let name := bytes.takeWhile isNameByte
    match bytes.dropWhile isNameByte with
    | [] => .incomplete
    | mark :: rest =>
      if name.isEmpty || mark ≠ 58 then .malformed
      else
        let header : Header := ⟨ofBytes name, trim (rest.takeWhile isValueByte)⟩
        match rest.dropWhile isValueByte with
        | [] => .incomplete
        | [13] => .incomplete
        | 13 :: 10 :: rest => block (header :: done) room rest
        | 10 :: rest => block (header :: done) room rest
        | _ => .malformed

/-- A length: decimal digits after an optional plus sign, of a 64-bit integer. -/
def length? (value : String) : Option Nat :=
  let digits := match value.toList with
    | '+' :: rest => rest
    | cs => cs
  if digits.isEmpty || !digits.all Char.isDigit then none
  else
    let n := Number.ofDigits digits
    if n < 0x10000000000000000 then some n else none

/-- The text after `charset=`, if a parameter is that one. -/
def charset? (parameter : List Char) : Option String :=
  let trimmed := trimBlanks parameter
  let mark := "charset=".toList
  if mark.isPrefixOf trimmed then some (String.ofList (trimmed.drop mark.length)) else none

/-- Whether a type of content says that it is UTF-8. -/
def isUtf8 (value : String) : Bool :=
  match ((pieces (· = ';') value.toList).drop 1).findSome? charset? with
  | some charset => charset = "utf-8" || charset = "utf8"
  | none => false

/-- The length that a block of headers gives, the last one if there are several; none if the
block cannot be used. -/
def contentLength (found : Option Nat) : List Header → Option Nat
  | [] => found
  | h :: rest =>
    if h.name = "Content-Length" then
      match h.text?.bind length? with
      | some n => contentLength (some n) rest
      | none => none
    else if h.name = "Content-Type" then
      if h.text?.any isUtf8 then contentLength found rest else none
    else contentLength found rest

end Header

/-- The first message in the bytes that have come in. -/
inductive Frame where
  | incomplete
  | malformed
  | body (bytes rest : List UInt8)

namespace Frame

/-- Take the first message. -/
def next (bytes : List UInt8) : Frame :=
  match Header.block [] Header.limit bytes with
  | .incomplete => incomplete
  | .malformed => malformed
  | .complete headers rest =>
    match Header.contentLength none headers with
    | none => malformed
    | some n => if rest.length < n then incomplete else body (rest.take n) (rest.drop n)

/-- Whether the input may end after these bytes: nothing is left, or headers
whose body has not begun. -/
def mayEnd (bytes : List UInt8) : Bool :=
  match Header.block [] Header.limit bytes with
  | .complete headers rest => (Header.contentLength none headers).isSome && rest.isEmpty
  | _ => bytes.isEmpty

/-- The headers before a body of `length` bytes. -/
def header (length : Nat) : String :=
  "Content-Length: " ++ toString length ++ "\r\n\r\n"

/-- A message with its headers. -/
def write (body : String) : String :=
  header body.utf8ByteSize ++ body

end Frame
end Majuscule.Wire
