import Majuscule.Text.Pieces

/-!
# Sets of code points

Properties of characters come as tables: rows of text with hexadecimal numbers, a dash between the
ends of a closed range and a blank between ranges. `CodeSet.ofRows` reads such rows, and
`CodeSet.contains` is membership in one of the ranges.
-/

namespace Majuscule.Text

/-- The value of an upper-case hexadecimal digit. -/
def hexDigitValue (c : Char) : Nat :=
  if c.isDigit then c.toNat - 48 else c.toNat - 55

/-- The number that upper-case hexadecimal digits stand for. -/
def hexNumber (cs : List Char) : Nat :=
  cs.foldl (fun n c => n * 16 + hexDigitValue c) 0

/-- The words of several rows. -/
def tableWords (rows : List String) : List (List Char) :=
  rows.flatMap fun row => pieces (· = ' ') row.toList

/-- A set of code points, as closed ranges. -/
structure CodeSet where
  ranges : List (Nat × Nat)
  deriving Repr

namespace CodeSet

/-- One range: its two ends with a dash between them, or a code point alone. -/
def readRange (word : List Char) : Nat × Nat :=
  match pieces (· = '-') word with
  | [first, last] => (hexNumber first, hexNumber last)
  | _ => (hexNumber word, hexNumber word)

/-- The set that rows of a table describe. -/
def ofRows (rows : List String) : CodeSet :=
  ⟨(tableWords rows).map readRange⟩

/-- Whether a code point lies in one of the ranges. -/
def contains (s : CodeSet) (n : Nat) : Bool :=
  s.ranges.any fun r => r.1 ≤ n && n ≤ r.2

end CodeSet
end Majuscule.Text
