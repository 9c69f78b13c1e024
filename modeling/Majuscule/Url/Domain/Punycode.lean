/-!
# Punycode

A text over all characters, written with the letters and digits of ASCII. The characters of ASCII
come first, with a hyphen after them; the others follow in ascending order, each as the number of
steps from the one before, where a step is one place in the text or, after the last place, the next
code point. The numbers are written in base 36 with the lowest digit first; how many values end a
number depends on its length and on a bias that adapts to the numbers before (`threshold`, `adapt`).

Numbers are limited to 32 bits (`wordLimit`).
-/

namespace Majuscule.Url.Domain.Punycode

/-- Numbers are below this limit. -/
def wordLimit : Nat := 0x100000000

/-- The digit of a value: letters first, then digits. -/
def digitChar (d : Nat) : Char :=
  if d < 26 then Char.ofNat (0x61 + d) else Char.ofNat (0x30 + d - 26)

/-- The value of a digit. -/
def digitValue? (c : Char) : Option Nat :=
  if 'a' ≤ c && c ≤ 'z' then some (c.toNat - 0x61)
  else if '0' ≤ c && c ≤ '9' then some (c.toNat - 0x30 + 26)
  else none

/-- A digit below the threshold ends a number. -/
def threshold (k bias : Nat) : Nat :=
  if k ≤ bias then 1 else if bias + 26 ≤ k then 26 else k - bias

theorem threshold_pos (k bias : Nat) : 1 ≤ threshold k bias := by
  unfold threshold
  split
  · omega
  · split <;> omega

/-- How often a number can be divided by 35 before it is at most 455, in steps of 36,
and what is left of it. -/
def scaleDown (delta k : Nat) : Nat × Nat :=
  if 455 < delta then scaleDown (delta / 35) (k + 36) else (delta, k)
termination_by delta
decreasing_by exact Nat.div_lt_self (by omega) (by omega)

/-- The bias after the number `delta` with `count` characters so far. -/
def adapt (delta count : Nat) (isFirst : Bool) : Nat :=
  let damped := if isFirst then delta / 700 else delta / 2
  let (rest, k) := scaleDown (damped + damped / count) 0
  k + 36 * rest / (rest + 38)

/-! ## Encoding -/

/-- A number as digits. -/
def numberDigits (bias k n : Nat) : List Char :=
  if n < threshold k bias then [digitChar n]
  else
    digitChar (threshold k bias + (n - threshold k bias) % (36 - threshold k bias)) ::
      numberDigits bias (k + 36) ((n - threshold k bias) / (36 - threshold k bias))
termination_by n
decreasing_by
  have hpos := threshold_pos k bias
  have hle := Nat.div_le_self (n - threshold k bias) (36 - threshold k bias)
  omega

/-- An encoding under way. -/
structure Encoding where
  digits : List Char
  delta : Nat
  bias : Nat
  count : Nat

/-- Pass a character of the text while the code point `n` is written; `basic` characters
were written as they are. -/
def Encoding.pass (basic n : Nat) (e : Encoding) (c : Nat) : Encoding :=
  if c < n then { e with delta := e.delta + 1 }
  else if c = n then
    { digits := e.digits ++ numberDigits e.bias 36 e.delta
      delta := 0
      bias := adapt e.delta (e.count + 1) (e.count = basic)
      count := e.count + 1 }
  else e

/-- Write the code points of a text from the list on, which ascends, after all
below `next` are written. -/
def Encoding.write (text : List Nat) (basic : Nat) (next : Nat) (e : Encoding) : List Nat → Encoding
  | [] => e
  | n :: rest =>
    let e := { e with delta := e.delta + (n - next) * (e.count + 1) }
    let e := text.foldl (Encoding.pass basic n) e
    Encoding.write text basic (n + 1) { e with delta := e.delta + 1 } rest

/-- Put a number into an ascending list, once. -/
def insertOnce (n : Nat) : List Nat → List Nat
  | [] => [n]
  | m :: rest =>
    if n < m then n :: m :: rest else if n = m then m :: rest else m :: insertOnce n rest

/-- The encoded text. -/
def encode (text : List Nat) : List Char :=
  let basic := text.filter (· < 0x80)
  let others := (text.filter (0x80 ≤ ·)).foldr insertOnce []
  let front := basic.map Char.ofNat ++ (if basic.isEmpty then [] else ['-'])
  front ++ (Encoding.write text basic.length 0x80 ⟨[], 0, 72, basic.length⟩ others).digits

/-! ## Decoding -/

/-- Read one number and add it to `i`; what follows it is returned too. -/
def readNumber (bias : Nat) : (cs : List Char) → (k weight i : Nat) → Option (Nat × List Char)
  | [], _, _, _ => none
  | c :: cs, k, weight, i =>
    match digitValue? c with
    | none => none
    | some d =>
      if wordLimit ≤ d * weight || wordLimit ≤ i + d * weight then none
      else if d < threshold k bias then some (i + d * weight, cs)
      else if wordLimit ≤ weight * (36 - threshold k bias) then none
      else readNumber bias cs (k + 36) (weight * (36 - threshold k bias)) (i + d * weight)

/-- Reading a number takes at least one digit. -/
theorem length_readNumber_lt (bias : Nat) (cs : List Char) (k weight i : Nat) {r : Nat × List Char}
    (h : readNumber bias cs k weight i = some r) : r.2.length < cs.length := by
  induction cs generalizing k weight i with
  | nil => simp [readNumber] at h
  | cons c cs ih =>
    rw [readNumber] at h
    split at h
    · simp at h
    · split at h
      · simp at h
      · split at h
        · obtain rfl := Option.some.inj h
          simp
        · split at h
          · simp at h
          · have hlt := ih _ _ _ h
            simp only [List.length_cons]
            omega

/-- Whether a number is a code point of a character. -/
def isScalar (n : Nat) : Bool :=
  n < 0xD800 || (0xE000 ≤ n && n < 0x110000)

/-- Put a character into a text at a place. -/
def insertAt (place n : Nat) (text : List Nat) : List Nat :=
  text.take place ++ n :: text.drop place

/-- Insert the characters that the digits describe, from place `i` and code point `n` on. -/
def readInsertions (cs : List Char) (text : List Nat) (n bias i : Nat) : Option (List Nat) :=
  if cs.isEmpty then some text
  else
    match h : readNumber bias cs 36 1 i with
    | none => none
    | some (j, rest) =>
      let count := text.length + 1
      let n := n + j / count
      if isScalar n then
        readInsertions rest (insertAt (j % count) n text) n (adapt (j - i) count (i = 0))
          (j % count + 1)
      else none
termination_by cs.length
decreasing_by exact length_readNumber_lt _ _ _ _ _ h

/-- The text that an encoding stands for. A hyphen in front of everything ends nothing. -/
def decode (cs : List Char) : Option (List Nat) :=
  let back := cs.reverse
  let front := (back.dropWhile (· ≠ '-')).reverse.dropLast
  if cs.head? = some '-' && front.isEmpty then none
  else readInsertions (back.takeWhile (· ≠ '-')).reverse (front.map Char.toNat) 0x80 72 0

end Majuscule.Url.Domain.Punycode
