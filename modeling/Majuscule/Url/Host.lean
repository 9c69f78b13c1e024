import Majuscule.Url.Domain
import Majuscule.Url.Percent

/-!
# Hosts

The host of a URL with a special scheme is a domain, an IPv4 address in any of its numeric
spellings, or an IPv6 address in brackets; a domain is written in ASCII and in lower case, the
addresses in their standard form. Any other scheme takes the host as it is.
-/

namespace Majuscule.Url

/-- Why a text is not a URL. -/
inductive ParseError where
  | relativeWithoutBase
  | emptyHost
  | invalidPort
  | invalidIpv4
  | invalidIpv6
  | invalidDomain
  | invalidDomainCharacter
  deriving DecidableEq, Repr

/-- The wording of a parse error. -/
def ParseError.message : ParseError → String
  | relativeWithoutBase => "relative URL without a base"
  | emptyHost => "empty host"
  | invalidPort => "invalid port number"
  | invalidIpv4 => "invalid IPv4 address"
  | invalidIpv6 => "invalid IPv6 address"
  | invalidDomain => "invalid international domain name"
  | invalidDomainCharacter => "invalid domain character"

namespace Host

open Text

/-! ## IPv4 -/

/-- The value of a run of digits in base `base`, if all of them are digits of that base. -/
def number? (base : Nat) (cs : List Char) : Option Nat :=
  cs.foldlM (fun n c => do
    let d ← Number.hexValue? c
    if d < base then some (n * base + d) else none) 0

/-- One part of an IPv4 address: decimal, octal after `0`, hexadecimal after `0x`. -/
def ipv4Part? (cs : List Char) : Option Nat :=
  match cs with
  | [] => none
  | '0' :: 'x' :: rest => number? 16 rest
  | '0' :: 'X' :: rest => number? 16 rest
  | ['0'] => some 0
  | '0' :: rest => number? 8 rest
  | _ => number? 10 cs

/-- The parts of a dotted name, without the empty one after a final dot. -/
def dottedParts (cs : List Char) : List (List Char) :=
  let parts := pieces (· = '.') cs
  if 1 < parts.length && parts.getLast? = some [] then parts.dropLast else parts

/-- Whether the last part of a domain makes it an IPv4 address. -/
def endsInNumber (cs : List Char) : Bool :=
  match (dottedParts cs).getLast? with
  | none => false
  | some last => (!last.isEmpty && last.all Char.isDigit) || (ipv4Part? last).isSome

/-- The four bytes of an address, in decimal with dots between them. -/
def ipv4Text (n : Nat) : String :=
  ".".intercalate ([n / 0x1000000 % 256, n / 0x10000 % 256, n / 0x100 % 256, n % 256].map toString)

/-- Add the leading bytes of an address, the first of them at position `place`. -/
def addBytes : List Nat → Nat → Nat → Nat
  | [], _, n => n
  | b :: rest, place, n => addBytes rest (place - 1) (n + b * Nat.pow 256 place)

/-- An IPv4 address of up to four parts; the last one fills the bytes that the others leave. -/
def ipv4? (cs : List Char) : Option String := do
  let numbers ← (dottedParts cs).mapM ipv4Part?
  let last ← numbers.getLast?
  let first := numbers.dropLast
  if 3 < first.length || Nat.pow 256 (4 - first.length) ≤ last || first.any (255 < ·) then none
  else some (ipv4Text (addBytes first 3 last))

/-! ## IPv6 -/

/-- One group of an IPv6 address: one to four hexadecimal digits. -/
def group? (cs : List Char) : Option Nat :=
  if cs.isEmpty || 4 < cs.length then none else number? 16 cs

/-- One decimal byte without leading zeros. -/
def byte? (cs : List Char) : Option Nat := do
  let n ← number? 10 cs
  if cs.isEmpty || 255 < n || (cs.head? = some '0' && 1 < cs.length) then none else some n

/-- The two groups of an IPv4 address at the end of an IPv6 address. -/
def embedded? (cs : List Char) : Option (List Nat) := do
  let bytes ← (pieces (· = '.') cs).mapM byte?
  match bytes with
  | [a, b, c, d] => some [a * 256 + b, c * 256 + d]
  | _ => none

/-- Groups divided by colons; the last may be an IPv4 address if `ipv4` allows it. -/
def groups? (ipv4 : Bool) : List (List Char) → Option (List Nat)
  | [] => some []
  | [last] =>
    if ipv4 && last.contains '.' then embedded? last else (group? last).map fun g => [g]
  | part :: rest => do
    let g ← group? part
    let gs ← groups? ipv4 rest
    return g :: gs

/-- `groups?` of a text that may be empty. -/
def groupsOf? (ipv4 : Bool) (cs : List Char) : Option (List Nat) :=
  if cs.isEmpty then some [] else groups? ipv4 (pieces (· = ':') cs)

/-- What stands before and after the first double colon. -/
def splitDouble : List Char → Option (List Char × List Char)
  | ':' :: ':' :: rest => some ([], rest)
  | c :: rest => (splitDouble rest).map fun (a, b) => (c :: a, b)
  | [] => none

/-- The eight groups of an IPv6 address. A double colon stands for at least one group of zero. -/
def ipv6? (cs : List Char) : Option (List Nat) :=
  match splitDouble cs with
  | none => do
    let gs ← groupsOf? true cs
    if gs.length = 8 then some gs else none
  | some (before, after) => do
    let front ← groupsOf? false before
    let back ← groupsOf? true after
    if front.length + back.length < 8 then
      some (front ++ List.replicate (8 - front.length - back.length) 0 ++ back)
    else none

/-- How many zeros a list starts with. -/
def leadingZeros (gs : List Nat) : Nat :=
  (gs.takeWhile (· = 0)).length

/-- The longest run of zeros: where it starts and how long it is; the first one
if several are longest. -/
def longestZeros (start : Nat) (gs : List Nat) : Nat × Nat :=
  match gs with
  | [] => (start, 0)
  | _ :: rest =>
    let later := longestZeros (start + 1) rest
    if later.2 ≤ leadingZeros gs then (start, leadingZeros gs) else later

def groupsText (gs : List Nat) : String :=
  ":".intercalate (gs.map fun g => String.ofList (Nat.toDigits 16 g))

/-- An IPv6 address in brackets; the longest run of two or more groups of zero is left out. -/
def ipv6Text (gs : List Nat) : String :=
  let (start, count) := longestZeros 0 gs
  if count < 2 then "[" ++ groupsText gs ++ "]"
  else "[" ++ groupsText (gs.take start) ++ "::" ++ groupsText (gs.drop (start + count)) ++ "]"

/-- A host that starts with a bracket. -/
def bracketed (cs : List Char) : Except ParseError String :=
  match cs.getLast?, ipv6? (cs.drop 1).dropLast with
  | some ']', some gs => .ok (ipv6Text gs)
  | _, _ => .error .invalidIpv6

/-! ## Domains -/

/-- A domain name, or the address that it spells. -/
def ofName (name : List Char) : Except ParseError String :=
  if name.isEmpty then .error .emptyHost
  else if endsInNumber name then
    match ipv4? name with
    | some address => .ok address
    | none => .error .invalidIpv4
  else .ok (String.ofList name)

/-- The host of a URL with a special scheme. -/
def domain (cs : List Char) : Except ParseError String :=
  if cs.head? = some '[' then bracketed cs
  else
    match (String.fromUTF8? ⟨(Percent.decode cs).toArray⟩).bind fun s =>
      Domain.toAscii? s.toList with
    | none => .error .invalidDomain
    | some name => ofName name

/-- Characters that a host without special scheme does not contain. -/
def isForbiddenBare (c : Char) : Bool :=
  c.toNat = 0 || ['\t', '\n', '\r', ' ', '#', '/', ':', '<', '>', '?', '@', '[', '\\', ']', '^',
    '|'].contains c

/-- The host of a URL without special scheme. -/
def bare (cs : List Char) : Except ParseError String :=
  if cs.head? = some '[' then bracketed cs
  else if cs.any isForbiddenBare then .error .invalidDomainCharacter
  else .ok (String.ofList (Percent.encode Percent.control cs))

end Host
end Majuscule.Url
