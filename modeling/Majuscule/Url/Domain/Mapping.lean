import Majuscule.Text.CodeSet
import Majuscule.Url.Domain.MappingTable

/-!
# The mapping of domain names

What a character of a domain name becomes before names are compared: `status` says whether it stays,
becomes other characters, is left out, or may not occur at all. Letters of ASCII become lower case,
and the other characters of ASCII stay.
-/

namespace Majuscule.Url.Domain

open Text

/-- What becomes of a character. -/
inductive Status where
  | valid
  | mapped (image : List Nat)
  | ignored
  | disallowed
  deriving DecidableEq, Repr

/-- What the characters of a range become. -/
inductive Target where
  /-- Those from `start` on, one for one. -/
  | shift (start : Nat)
  /-- The same for every second character only. -/
  | alternate (start : Nat)
  /-- One text for all of them. -/
  | text (image : List Nat)
  deriving DecidableEq, Repr

/-- An entry of the table: a range and what its characters become. -/
structure Entry where
  first : Nat
  last : Nat
  target : Target
  deriving DecidableEq, Repr

namespace Entry

/-- One word of the table. -/
def read? (word : List Char) : Option Entry :=
  match pieces (· = '=') word with
  | [range, target] =>
    let image := (pieces (· = '.') target).map hexNumber
    let ends := (pieces (fun c => c = '-' || c = '~' || c = '+') range).map hexNumber
    match ends, image with
    | [n], image => some ⟨n, n, .text image⟩
    | [first, last], [start] =>
      if range.contains '-' then some ⟨first, last, .shift start⟩
      else if range.contains '~' then some ⟨first, last, .alternate start⟩
      else some ⟨first, last, .text [start]⟩
    | _, _ => none
  | _ => none

/-- What the entry makes of a code point, if it has something to say about it. -/
def image? (e : Entry) (n : Nat) : Option (List Nat) :=
  if e.first ≤ n && n ≤ e.last then
    match e.target with
    | .shift start => some [start + (n - e.first)]
    | .alternate start => if (n - e.first) % 2 = 0 then some [start + (n - e.first)] else none
    | .text image => some image
  else none

end Entry

def entries : List Entry :=
  (tableWords MappingTable.mapped).filterMap Entry.read?

def ignored : CodeSet := .ofRows MappingTable.ignored

def disallowed : CodeSet := .ofRows MappingTable.disallowed

/-- What becomes of a code point. -/
def status (n : Nat) : Status :=
  if n < 0x80 then
    if 0x41 ≤ n && n ≤ 0x5A then .mapped [n + 0x20] else .valid
  else if ignored.contains n then .ignored
  else if disallowed.contains n then .disallowed
  else
    match entries.findSome? fun e => e.image? n with
    | some image => .mapped image
    | none => .valid

/-- The mapping of a text; none if it contains a character that may not occur. -/
def mapText : List Nat → Option (List Nat)
  | [] => some []
  | n :: rest =>
    match status n with
    | .valid => (mapText rest).map (n :: ·)
    | .mapped image => (mapText rest).map (image ++ ·)
    | .ignored => mapText rest
    | .disallowed => none

end Majuscule.Url.Domain
