/-!
# UTF-16 code units and lines

Editors count columns in UTF-16 code units: a character of the basic plane is one unit, every other
character a surrogate pair. `units` is the encoding of a character, `encode` that of a text, and
`width` and `length` are their sizes, computed without encoding anything (`length_units`,
`length_encode`).

`lines` cuts a text at each line feed and keeps everything else, so a carriage return stays at the
end of its line.
-/

namespace Majuscule.Text

namespace Utf16

/-- The UTF-16 code units of a character. -/
def units (c : Char) : List UInt16 :=
  if c.toNat < 0x10000 then [c.toNat.toUInt16]
  else [(0xD800 + (c.toNat - 0x10000) / 0x400).toUInt16,
    (0xDC00 + (c.toNat - 0x10000) % 0x400).toUInt16]

/-- The UTF-16 code units of a text. -/
def encode : List Char → List UInt16
  | [] => []
  | c :: cs => units c ++ encode cs

/-- How many code units a character takes. -/
def width (c : Char) : Nat :=
  if c.toNat < 0x10000 then 1 else 2

/-- How many code units a text takes. -/
def length : List Char → Nat
  | [] => 0
  | c :: cs => width c + length cs

theorem length_units (c : Char) : (units c).length = width c := by
  unfold units width
  split <;> rfl

theorem length_encode (cs : List Char) : (encode cs).length = length cs := by
  induction cs with
  | nil => rfl
  | cons c cs ih => simp [encode, length, length_units, ih]

theorem encode_append (as bs : List Char) : encode (as ++ bs) = encode as ++ encode bs := by
  induction as with
  | nil => rfl
  | cons a as ih => simp [encode, ih]

theorem length_append (as bs : List Char) : length (as ++ bs) = length as + length bs := by
  induction as with
  | nil => simp [length]
  | cons a as ih => simp [length, ih, Nat.add_assoc]

end Utf16

/-- Put a character in front of the first line. -/
def consLine (c : Char) : List (List Char) → List (List Char)
  | [] => [[c]]
  | line :: rest => (c :: line) :: rest

/-- The lines of a text: the stretches between line feeds, the last one included
even when it is empty. -/
def lines : List Char → List (List Char)
  | [] => [[]]
  | c :: cs => if c = '\n' then [] :: lines cs else consLine c (lines cs)

theorem lines_ne_nil (cs : List Char) : lines cs ≠ [] := by
  cases cs with
  | nil => simp [lines]
  | cons c cs =>
    rw [lines]
    split
    · simp
    · cases lines cs <;> simp [consLine]

end Majuscule.Text
