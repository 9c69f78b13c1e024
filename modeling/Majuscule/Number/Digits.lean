/-!
# Digits

The value of a hexadecimal digit, and of a run of decimal digits (`ofDigits`), which is built up
from zero by writing one digit after another (`appendDigit`).
-/

namespace Majuscule.Number

/-- A number with a decimal digit written behind it. -/
def appendDigit (n : Nat) (c : Char) : Nat :=
  n * 10 + (c.toNat - 48)

/-- The value of a run of decimal digits. -/
def ofDigits (cs : List Char) : Nat :=
  cs.foldl appendDigit 0

/-- The value of a hexadecimal digit, in upper or lower case. -/
def hexValue? (c : Char) : Option Nat :=
  if '0' ≤ c && c ≤ '9' then some (c.toNat - 48)
  else if 'a' ≤ c && c ≤ 'f' then some (c.toNat - 87)
  else if 'A' ≤ c && c ≤ 'F' then some (c.toNat - 55)
  else none

end Majuscule.Number
