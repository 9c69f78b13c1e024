import Majuscule.Number.Binary64

/-!
# Decimal text of a double

`shortest` finds the fewest decimal digits that read back as a given double, and among those the
nearest to it. It works on exact integers: the numbers that round to the double form an interval,
and for one digit, two digits and so on the two neighbours of the double on that decimal grid are
tested for membership.

`Layout` says how digits become text, and `render` applies it.
-/

namespace Majuscule.Number

/-- The decimal `digits * 10 ^ exponent`. -/
structure Decimal where
  digits : Nat
  exponent : Int
  deriving DecidableEq, Repr

namespace Decimal

/-- `num * 10 ^ k ≤ den`, or strictly less, compared without fractions. -/
def atMost (closed : Bool) (num : Nat) (k : Int) (bound : Nat) (j : Int) : Bool :=
  let left := num * tenTo k.toNat * twoTo (-j).toNat
  let right := bound * twoTo j.toNat * tenTo (-k).toNat
  if closed then left ≤ right else left < right

/-- `bound * 2 ^ j ≤ num * 10 ^ k`, or strictly less. -/
def atLeast (closed : Bool) (num : Nat) (k : Int) (bound : Nat) (j : Int) : Bool :=
  let left := bound * twoTo j.toNat * tenTo (-k).toNat
  let right := num * tenTo k.toNat * twoTo (-j).toNat
  if closed then left ≤ right else left < right

/--
Whether `d * 10 ^ k` rounds to the positive double `x`: it lies between the midpoints to the two
neighbours, which count when the significand is even. Below a power of two the lower neighbour is
half as far away.
-/
def readsBack (x : Binary64) (d : Nat) (k : Int) : Bool :=
  let m := x.significand
  let low := if m = fractionSize && 1 < x.exponent then 4 * m - 1 else 4 * m - 2
  let closed := m % 2 = 0
  atLeast closed d k low (x.scale - 2) && atMost closed d k (4 * m + 2) (x.scale - 2)

/-- The integer part of `x / 10 ^ k`. -/
def gridFloor (x : Binary64) (k : Int) : Nat :=
  (x.significand * twoTo x.scale.toNat * tenTo (-k).toNat) /
    (twoTo (-x.scale).toNat * tenTo k.toNat)

/-- Whether `x` is nearer to `d * 10 ^ k` than to the next point of the grid, or as
near and `d` is even. -/
def nearerBelow (x : Binary64) (d : Nat) (k : Int) : Bool :=
  atLeast (d % 2 = 0) (2 * d + 1) k x.significand (x.scale + 1)

/-- The point of the grid of step `10 ^ k` that reads back as `x`, the nearer one if both neighbours
do, and the even one if they are equally near. -/
def onGrid? (x : Binary64) (k : Int) : Option Decimal :=
  let d := gridFloor x k
  match readsBack x d k, readsBack x (d + 1) k with
  | true, true => some ⟨if nearerBelow x d k then d else d + 1, k⟩
  | true, false => some ⟨d, k⟩
  | false, true => some ⟨d + 1, k⟩
  | false, false => none

/-- Try ever finer grids, `n` of them, from the step `10 ^ k` down. -/
def refine (x : Binary64) : Nat → Int → Decimal
  | 0, k => ⟨gridFloor x k, k⟩
  | n + 1, k => (onGrid? x k).getD (refine x n (k - 1))

/-- Move trailing zeros of the digits into the exponent. -/
def trim (d : Decimal) : Decimal :=
  if h : d.digits ≠ 0 ∧ d.digits % 10 = 0 then trim ⟨d.digits / 10, d.exponent + 1⟩ else d
termination_by d.digits
decreasing_by omega

/-- The exponent of the leading decimal digit of a positive double, or one more. -/
def leading (x : Binary64) : Int :=
  ((Nat.log2 x.significand : Int) + x.scale) * 30103 / 100000 + 1

/-- The shortest decimal that reads back as the magnitude of `x`. -/
def shortest (x : Binary64) : Decimal :=
  if x.significand = 0 then ⟨0, 0⟩ else trim (refine x 19 (leading x))

end Decimal

/-- How a decimal number is laid out as text. -/
structure Layout where
  /-- The least exponent of the leading digit that is written without exponent. -/
  least : Int
  /-- The exponent of the leading digit from which on an exponent is written. -/
  limit : Int
  /-- What follows the digits of an integer that is written without exponent. -/
  whole : String
  /-- The sign in front of a non-negative exponent. -/
  plus : String

namespace Layout

def zeros (n : Nat) : String :=
  String.ofList (List.replicate n '0')

/-- A positive decimal, with its digits as text, written without exponent. -/
def positional (layout : Layout) (digits : String) (exponent : Int) : String :=
  let point := (digits.length : Int) + exponent
  if 0 ≤ exponent then digits ++ zeros exponent.toNat ++ layout.whole
  else if 0 < point then
    String.ofList (digits.toList.take point.toNat ++ '.' :: digits.toList.drop point.toNat)
  else "0." ++ zeros (-point).toNat ++ digits

/-- A positive decimal, with its digits as text, written with an exponent. -/
def scientific (layout : Layout) (digits : String) (leadingExponent : Int) : String :=
  let mantissa :=
    match digits.toList with
    | first :: second :: rest => String.ofList (first :: '.' :: second :: rest)
    | _ => digits
  let sign := if 0 ≤ leadingExponent then layout.plus else "-"
  mantissa ++ "e" ++ sign ++ toString leadingExponent.natAbs

/-- The text of the magnitude of a finite double. -/
def magnitude (layout : Layout) (x : Binary64) : String :=
  let d := Decimal.shortest x
  let digits := toString d.digits
  let lead := (digits.length : Int) + d.exponent - 1
  if layout.least ≤ lead && lead < layout.limit then layout.positional digits d.exponent
  else layout.scientific digits lead

/-- The text of a finite double. -/
def render (layout : Layout) (x : Binary64) : String :=
  if x.isNegative then "-" ++ layout.magnitude x else layout.magnitude x

end Layout
end Majuscule.Number
