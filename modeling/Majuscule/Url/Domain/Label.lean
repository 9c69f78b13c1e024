import Majuscule.Text.Composition
import Majuscule.Url.Domain.LetterTable

/-!
# Rules for labels

A label that is not ASCII has to be readable as one word. It does not start with a mark
(`startsWithMark`), a joiner stands in it only where it shows (`joinersFit`), and in a name with
letters that are written from right to left every label has one direction (`hasOneDirection`).
-/

namespace Majuscule.Url.Domain

open Text

/-! ## Marks and joiners -/

def markSet : CodeSet := .ofRows LetterTable.marks

/-- Whether the first character needs one before it. -/
def startsWithMark (label : List Nat) : Bool :=
  label.head?.any markSet.contains

def joinsLeftSet : CodeSet := .ofRows LetterTable.joinsLeft
def joinsRightSet : CodeSet := .ofRows LetterTable.joinsRight
def transparentSet : CodeSet := .ofRows LetterTable.transparent

/-- The sign that keeps two letters apart. -/
def nonJoiner : Nat := 0x200C

/-- The sign that joins two letters. -/
def joiner : Nat := 0x200D

/-- The class of the marks that take the vowel from a consonant. -/
def viramaClass : Nat := 9

/-- Whether the character right before is such a mark; what comes before is listed from the last
character to the first. -/
def followsVirama (before : List Nat) : Bool :=
  before.head?.any fun n => Composition.combiningClass n = viramaClass

/-- Whether the letters around a place would join, marks aside. -/
def standsBetweenJoining (before after : List Nat) : Bool :=
  (before.dropWhile transparentSet.contains).head?.any joinsLeftSet.contains &&
    (after.dropWhile transparentSet.contains).head?.any joinsRightSet.contains

/-- Whether every joiner of a label stands where it shows. -/
def joinersFit (before : List Nat) : List Nat → Bool
  | [] => true
  | n :: rest =>
    let fits :=
      if n = joiner then followsVirama before
      else if n = nonJoiner then followsVirama before || standsBetweenJoining before rest
      else true
    fits && joinersFit (n :: before) rest

/-! ## Direction -/

/-- How a character is written. -/
inductive Direction where
  | left
  | right
  | arabicNumber
  | europeanNumber
  | nonspacing
  | neutral
  deriving DecidableEq, Repr

/-- The characters of each direction; all others are written from left to right. -/
def directionSets : List (Direction × CodeSet) := [
  (.right, .ofRows LetterTable.rightToLeft),
  (.arabicNumber, .ofRows LetterTable.arabicNumbers),
  (.europeanNumber, .ofRows LetterTable.europeanNumbers),
  (.nonspacing, .ofRows LetterTable.nonspacing),
  (.neutral, .ofRows LetterTable.neutral)]

def direction (n : Nat) : Direction :=
  ((directionSets.find? fun d => d.2.contains n).map Prod.fst).getD .left

/-- Whether a direction makes a name one that is written from right to left in part. -/
def Direction.isRightward : Direction → Bool
  | right => true
  | arabicNumber => true
  | _ => false

/-- The last direction that is not a mark's. -/
def finalDirection? (ds : List Direction) : Option Direction :=
  (ds.reverse.dropWhile (· = .nonspacing)).head?

/-- Whether a label keeps to the direction of its first character. -/
def hasOneDirection (label : List Nat) : Bool :=
  let ds := label.map direction
  match ds.head? with
  | none => true
  | some .right =>
    ds.all (· ≠ .left) && [some .right, some .europeanNumber, some .arabicNumber].contains
      (finalDirection? ds) &&
      !(ds.contains .europeanNumber && ds.contains .arabicNumber)
  | some .left =>
    ds.all (fun d => !d.isRightward) && [some .left, some .europeanNumber].contains
      (finalDirection? ds)
  | some _ => false

end Majuscule.Url.Domain
