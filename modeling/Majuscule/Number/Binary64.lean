/-!
# Double-precision numbers

A `Binary64` is the 64-bit word of an IEEE double. Its finite magnitudes are
`significand * 2 ^ scale` with exact integers, so rounding, products and quotients are computed here
on integers and rounded once, to the nearest word and to the even one on a tie (`ofRatio`).
-/

namespace Majuscule.Number

/-- A power of two. -/
def twoTo (n : Nat) : Nat := Nat.pow 2 n

/-- A power of ten. -/
def tenTo (n : Nat) : Nat := Nat.pow 10 n

/-- How many fractions there are to an exponent: the fraction field has 52 bits. -/
def fractionSize : Nat := 0x10000000000000

/-- A double-precision number, by its word. -/
structure Binary64 where
  bits : UInt64
  deriving DecidableEq, Repr

namespace Binary64

/-- The fraction field: the low 52 bits. -/
def fraction (x : Binary64) : Nat :=
  x.bits.toNat % fractionSize

/-- The exponent field: the 11 bits above the fraction. -/
def exponent (x : Binary64) : Nat :=
  x.bits.toNat / fractionSize % 0x800

/-- The sign bit. -/
def isNegative (x : Binary64) : Bool :=
  0x8000000000000000 ≤ x.bits.toNat

/-- The integer part of a finite magnitude `significand * 2 ^ scale`. -/
def significand (x : Binary64) : Nat :=
  if x.exponent = 0 then x.fraction else fractionSize + x.fraction

/-- The power of two of a finite magnitude `significand * 2 ^ scale`. -/
def scale (x : Binary64) : Int :=
  if x.exponent = 0 then -1074 else (x.exponent : Int) - 1075

/-- Infinities and not-a-numbers have the largest exponent field. -/
def isFinite (x : Binary64) : Bool :=
  x.exponent < 2047

def zero : Binary64 := ⟨0⟩

/-- The same magnitude with the other sign. -/
def neg (x : Binary64) : Binary64 :=
  ⟨x.bits ^^^ 0x8000000000000000⟩

/-- `num / den` rounded to the nearest integer, and to the even one on a tie. -/
def roundQuotient (num den : Nat) : Nat :=
  let low := num / den
  let twice := 2 * (num % den)
  if twice < den then low
  else if den < twice then low + 1
  else low + low % 2

/-- The greatest `e` with `2 ^ e ≤ num / den`, for a positive quotient. -/
def floorLog2 (num den : Nat) : Int :=
  let e : Int := (Nat.log2 num : Int) - Nat.log2 den
  if den * twoTo e.toNat ≤ num * twoTo (-e).toNat then e else e - 1

/-- The word nearest to the quotient `num / den`; a quotient beyond the largest
double gives infinity. -/
def ofRatio (num den : Nat) : Binary64 :=
  if num = 0 then zero
  else
    let q := max (floorLog2 num den - 52) (-1074)
    let m := roundQuotient (num * twoTo (-q).toNat) (den * twoTo q.toNat)
    let word := if m < fractionSize then m else (q + 1075).toNat * fractionSize + (m - fractionSize)
    ⟨(min word (2047 * fractionSize)).toUInt64⟩

/-- The double nearest to a natural number. -/
def ofNat (n : Nat) : Binary64 :=
  ofRatio n 1

/-- The double nearest to `num / den * 2 ^ k`. -/
def ofScaled (num den : Nat) (k : Int) : Binary64 :=
  ofRatio (num * twoTo k.toNat) (den * twoTo (-k).toNat)

/-- The product of two magnitudes, rounded. -/
def mulAbs (x y : Binary64) : Binary64 :=
  ofScaled (x.significand * y.significand) 1 (x.scale + y.scale)

/-- The quotient of two magnitudes, rounded. -/
def divAbs (x y : Binary64) : Binary64 :=
  ofScaled x.significand y.significand (x.scale - y.scale)

/-- `f / 10 ^ k`, in steps of at most 308 powers of ten, each rounded. -/
def scaleDown (f : Binary64) (k : Nat) : Binary64 :=
  if k ≤ 308 then divAbs f (ofNat (tenTo k))
  else if f.significand = 0 then zero
  else scaleDown (divAbs f (ofNat (tenTo 308))) (k - 308)
termination_by k
decreasing_by omega

/--
The double for the decimal `m * 10 ^ e`: the integer `m` and the power of ten are rounded first,
their product or quotient after that. There is none when the value is too large.
-/
def ofDecimal? (m : Nat) (e : Int) : Option Binary64 :=
  let f := ofNat m
  if e < 0 then some (scaleDown f (-e).toNat)
  else if m = 0 then some zero
  else if 308 < e then none
  else
    let product := mulAbs f (ofNat (tenTo e.toNat))
    if product.isFinite then some product else none

end Binary64
end Majuscule.Number
