import Majuscule.Url.Domain.Label
import Majuscule.Url.Domain.Mapping
import Majuscule.Url.Domain.Punycode

/-!
# Domain names

The names of hosts may be written in any script and are kept in ASCII. `Domain.toAscii?` maps a name
to its normal spelling, divides it into labels and encodes the labels that are not ASCII; a label
that is already encoded is decoded in order to see that it could have been written that way. It
returns none for what is not a domain name.
-/

namespace Majuscule.Url.Domain

open Text

/-- Characters of ASCII that no label contains. -/
def isDenied (n : Nat) : Bool :=
  n ≤ 0x20 || n = 0x7F ||
    (['%', '#', '/', ':', '<', '>', '?', '@', '[', '\\', ']', '^', '|'].map Char.toNat).contains n

def isAscii (label : List Nat) : Bool :=
  label.all (· < 0x80)

/-- What an encoded label starts with. -/
def encodedMark : List Nat := "xn--".toList.map Char.toNat

/-- How many characters a label may have that is to be encoded. -/
def encodingLimit : Nat := 1000

/-- How many characters an encoded label may have after the mark. -/
def decodingLimit : Nat := 2000

/-- A label as it is written and as it is read. -/
structure Label where
  written : List Char
  letters : List Nat

/-- Whether a label that is not ASCII reads as one word. -/
def isReadable (letters : List Nat) : Bool :=
  !letters.any isDenied && !startsWithMark letters && joinersFit [] letters

/-- An encoded label, given what follows the mark: it has to stand for a
label in normal spelling. -/
def decodeLabel? (label rest : List Nat) : Option Label := do
  if !isAscii rest || rest.getLast? = some 0x2D || rest.isEmpty ||
      decodingLimit < rest.length then none
  let letters ← Punycode.decode (rest.map Char.ofNat)
  if !isReadable letters || letters.contains 0x2E ||
      !letters.all (fun n => status n = .valid) then none
  if Composition.normalize letters ≠ letters then none
  return ⟨label.map Char.ofNat, letters⟩

/-- A label in normal spelling. -/
def readLabel? (label : List Nat) : Option Label :=
  if encodedMark.isPrefixOf label then decodeLabel? label (label.drop encodedMark.length)
  else if isAscii label then
    if label.any isDenied then none else some ⟨label.map Char.ofNat, label⟩
  else if !isReadable label || encodingLimit < label.length then none
  else some ⟨encodedMark.map Char.ofNat ++ Punycode.encode label, label⟩

/-- Whether every label has one direction, as soon as one has letters that are
written from right to left. -/
def directionsFit (labels : List Label) : Bool :=
  labels.all (fun l => isAscii l.letters) ||
    !labels.any (fun l => l.letters.any fun n => (direction n).isRightward) ||
    labels.all fun l => hasOneDirection l.letters

/-- Labels with dots between them. -/
def joinLabels : List Label → List Char
  | [] => []
  | [l] => l.written
  | l :: rest => l.written ++ '.' :: joinLabels rest

/-- A name in ASCII; none if it is not a name. -/
def toAscii? (name : List Char) : Option (List Char) := do
  let mapped ← mapText (name.map Char.toNat)
  let normal := if isAscii mapped then mapped else Composition.normalize mapped
  let labels ← (pieces (· = 0x2E) normal).mapM readLabel?
  if directionsFit labels then some (joinLabels labels) else none

end Majuscule.Url.Domain
