import Majuscule.Text.Composition.Table

/-!
# Composed form of a text

A letter with marks can be written as one character or as a letter followed by its marks.
`Composition.normalize` brings a text into the form with as few characters as possible: every
character is taken apart (`decompose`), the marks after each letter are put into the order of their
classes (`reorder`), and then a letter and a mark that have a composed character are put together
again, unless another mark of the same or a higher class stands between them (`compose`).

Characters are given by their code points.
-/

namespace Majuscule.Text.Composition

/-! ## Classes and pairs -/

def classSets : List (Nat × CodeSet) :=
  combiningClasses.map fun c => (c.1, .ofRows c.2)

/-- The class of a mark; zero for a character that is no mark. -/
def combiningClass (n : Nat) : Nat :=
  ((classSets.find? fun c => c.2.contains n).map Prod.fst).getD 0

/-- A composed character and the two it stands for. -/
structure Pair where
  composed : Nat
  first : Nat
  second : Nat
  deriving DecidableEq, Repr

/-- One word of the table. -/
def Pair.read? (word : List Char) : Option Pair :=
  match (pieces (fun c => c = '=' || c = '.') word).map hexNumber with
  | [composed, first, second] => some ⟨composed, first, second⟩
  | _ => none

def pairs : List Pair :=
  (tableWords compositions).filterMap Pair.read?

/-! ## Hangul

A syllable is a leading consonant, a vowel and perhaps a trailing consonant, and the syllables stand
in the order of those three. -/

def syllableBase : Nat := 0xAC00
def leadBase : Nat := 0x1100
def leadCount : Nat := 19
def vowelBase : Nat := 0x1161
def vowelCount : Nat := 21
/-- One before the first trailing consonant: no consonant at all counts as the first. -/
def trailBase : Nat := 0x11A7
def trailCount : Nat := 28

def isSyllable (n : Nat) : Bool :=
  syllableBase ≤ n && n < syllableBase + leadCount * vowelCount * trailCount

/-- The two characters that a syllable stands for. -/
def splitSyllable (n : Nat) : Nat × Nat :=
  let index := n - syllableBase
  if index % trailCount = 0 then
    (leadBase + index / (vowelCount * trailCount), vowelBase + index / trailCount % vowelCount)
  else (n - index % trailCount, trailBase + index % trailCount)

/-- The syllable of two characters. -/
def joinSyllable? (a b : Nat) : Option Nat :=
  if leadBase ≤ a && a < leadBase + leadCount && vowelBase ≤ b && b < vowelBase + vowelCount then
    some (syllableBase + ((a - leadBase) * vowelCount + (b - vowelBase)) * trailCount)
  else if isSyllable a && (a - syllableBase) % trailCount = 0 && trailBase < b &&
      b < trailBase + trailCount then
    some (a + (b - trailBase))
  else none

/-! ## Normal form -/

/-- The two characters that a character stands for. -/
def split? (n : Nat) : Option (Nat × Nat) :=
  if isSyllable n then some (splitSyllable n)
  else (pairs.find? fun p => p.composed = n).map fun p => (p.first, p.second)

/-- The character that two characters make up. -/
def join? (a b : Nat) : Option Nat :=
  (joinSyllable? a b).orElse fun _ =>
    (pairs.find? fun p => p.first = a && p.second = b).map Pair.composed

/-- How often a character can be taken apart. -/
def depth : Nat := 4

/-- A character taken apart, at most `depth` times in a row. -/
def decompose : (depth : Nat) → Nat → List Nat
  | 0, n => [n]
  | depth + 1, n =>
    match split? n with
    | none => [n]
    | some (a, b) => decompose depth a ++ [b]

/-- Put a character in front of others, behind the marks of a lower class if it is a mark. -/
def insertMark (n : Nat) : List Nat → List Nat
  | [] => [n]
  | m :: rest =>
    if 0 < combiningClass m && combiningClass m < combiningClass n then m :: insertMark n rest
    else n :: m :: rest

/-- Every run of marks in the order of the classes. -/
def reorder (ns : List Nat) : List Nat :=
  ns.foldr insertMark []

/--
Put together what follows the letter `base`. The marks that stay are kept in `marks`, the last one
first, and `last` is the class of that one.
-/
def composeFrom (base : Nat) (marks : List Nat) (last : Nat) : List Nat → List Nat
  | [] => base :: marks.reverse
  | n :: rest =>
    match if marks.isEmpty || last < combiningClass n then join? base n else none with
    | some composed => composeFrom composed marks last rest
    | none =>
      if combiningClass n = 0 then base :: (marks.reverse ++ composeFrom n [] 0 rest)
      else composeFrom base (n :: marks) (combiningClass n) rest

/-- Put together letters and marks. -/
def compose : List Nat → List Nat
  | [] => []
  | n :: rest => if combiningClass n = 0 then composeFrom n [] 0 rest else n :: compose rest

/-- The composed form of a text. -/
def normalize (ns : List Nat) : List Nat :=
  compose (reorder (ns.flatMap (decompose depth)))

end Majuscule.Text.Composition
