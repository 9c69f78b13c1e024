import Majuscule.Json
import Majuscule.Number.Digits

/-!
# Reading JSON text

`Parser.value` reads one value from the front of a text and returns what follows it; `Json.parse?`
reads a whole text and makes the result canonical. Integers that fit a signed or an unsigned 64-bit
word stay integers; every other number, and the literal `-0`, is a floating-point number.

The readers are total: each takes a budget of steps, which `Json.parse?` sets from the length of the
text, and a limit on how deep arrays and objects may nest.
-/

namespace Majuscule.Json.Parser

open Number

/-- How deep arrays and objects may nest, plus one. -/
def depthLimit : Nat := 128

def isBlank (c : Char) : Bool :=
  c = ' ' || c = '\n' || c = '\t' || c = '\r'

def skipBlanks (cs : List Char) : List Char :=
  cs.dropWhile isBlank

/-- Take the characters of `word` from the front. -/
def word? : List Char → List Char → Option (List Char)
  | [], cs => some cs
  | _ :: _, [] => none
  | w :: ws, c :: cs => if w = c then word? ws cs else none

/-! ## Strings -/

/-- The code unit of four hexadecimal digits. -/
def unit? (a b c d : Char) : Option Nat := do
  let a ← hexValue? a
  let b ← hexValue? b
  let c ← hexValue? c
  let d ← hexValue? d
  return ((a * 16 + b) * 16 + c) * 16 + d

/-- The character that a backslash and one further character stand for. -/
def escaped? (c : Char) : Option Char :=
  if c = '"' || c = '\\' || c = '/' then some c
  else if c = 'b' then some '\x08'
  else if c = 'f' then some '\x0c'
  else if c = 'n' then some '\n'
  else if c = 'r' then some '\r'
  else if c = 't' then some '\t'
  else none

def isHighSurrogate (n : Nat) : Bool := 0xD800 ≤ n && n < 0xDC00

def isLowSurrogate (n : Nat) : Bool := 0xDC00 ≤ n && n < 0xE000

/-- The character of a surrogate pair. -/
def ofSurrogates (high low : Nat) : Char :=
  Char.ofNat (0x10000 + (high - 0xD800) * 0x400 + (low - 0xDC00))

/--
The rest of a string after its opening quote. `acc` holds the characters read so far, the last one
first, and `high` a high surrogate that waits for its partner.
-/
def stringTail (acc : List Char) (high : Option Nat) : List Char → Option (String × List Char)
  | [] => none
  | '\\' :: 'u' :: a :: b :: c :: d :: rest =>
    match unit? a b c d, high with
    | none, _ => none
    | some n, some h =>
      if isLowSurrogate n then stringTail (ofSurrogates h n :: acc) none rest else none
    | some n, none =>
      if isHighSurrogate n then stringTail acc (some n) rest
      else if isLowSurrogate n then none
      else stringTail (Char.ofNat n :: acc) none rest
  | '\\' :: c :: rest =>
    match escaped? c, high with
    | some e, none => stringTail (e :: acc) none rest
    | _, _ => none
  | c :: rest =>
    if high.isSome then none
    else if c = '"' then some (String.ofList acc.reverse, rest)
    else if c.toNat < 0x20 then none
    else stringTail (c :: acc) none rest

/-! ## Numbers -/

/--
Append decimal digits to `m` as long as the result fits an unsigned 64-bit word; also the number of
digits that did.
-/
def takeDigits (m : Nat) : List Char → Nat × Nat
  | [] => (m, 0)
  | c :: cs =>
    let next := appendDigit m c
    if next < 0x10000000000000000 then
      let (m, count) := takeDigits next cs
      (m, count + 1)
    else (m, 0)

/-- An optional sign. -/
def sign : List Char → Bool × List Char
  | '-' :: rest => (true, rest)
  | '+' :: rest => (false, rest)
  | rest => (false, rest)

/-- An optional exponent, zero if there is none. -/
def exponent? (cs : List Char) : Option (Option Int × List Char) :=
  match cs with
  | c :: rest =>
    if c = 'e' || c = 'E' then
      let (negative, rest) := sign rest
      let digits := rest.takeWhile Char.isDigit
      if digits.isEmpty then none
      else
        let n : Int := ofDigits digits
        some (some (if negative then -n else n), rest.dropWhile Char.isDigit)
    else some (none, cs)
  | [] => some (none, [])

/-- An optional fraction: its digits. -/
def fraction? (cs : List Char) : Option (List Char × List Char) :=
  match cs with
  | '.' :: rest =>
    let digits := rest.takeWhile Char.isDigit
    if digits.isEmpty then none else some (digits, rest.dropWhile Char.isDigit)
  | _ => some ([], cs)

/-- The floating-point number `m * 10 ^ e` with a sign. -/
def float? (negative : Bool) (m : Nat) (e : Int) : Option Json := do
  let x ← Binary64.ofDecimal? m e
  return float (if negative then x.neg else x)

/-- An integer literal with the digits `m`, a floating-point number if no 64-bit word holds it. -/
def integer? (negative : Bool) (m : Nat) : Option Json :=
  if !negative then some (int m)
  else if 0 < m && m ≤ 0x8000000000000000 then some (int (-(m : Int)))
  else float? true m 0

/-- A number after its minus sign. -/
def number? (negative : Bool) (cs : List Char) : Option (Json × List Char) := do
  let whole := cs.takeWhile Char.isDigit
  if whole.isEmpty || (whole.head? = some '0' && 1 < whole.length) then none
  else
    let (digits, rest) ← fraction? (cs.dropWhile Char.isDigit)
    let (power, rest) ← exponent? rest
    let (m, used) := takeDigits 0 whole
    if digits.isEmpty && power.isNone && used = whole.length then
      let v ← integer? negative m
      return (v, rest)
    else
      let (m, places) := takeDigits m digits
      let v ← float? negative m ((whole.length - used : Nat) - (places : Int) + power.getD 0)
      return (v, rest)

/-! ## Values -/

mutual

/-- One value from the front of a text, after blanks. -/
def value : (budget depth : Nat) → List Char → Option (Json × List Char)
  | 0, _, _ => none
  | budget + 1, depth, cs =>
    match skipBlanks cs with
    | [] => none
    | c :: rest =>
      if c = '"' then (stringTail [] none rest).map fun (s, rest) => (str s, rest)
      else if c = '[' then
        if depth ≤ 1 then none
        else
          match skipBlanks rest with
          | ']' :: rest => some (arr [], rest)
          | rest => items budget (depth - 1) [] rest
      else if c = '\x7b' then
        if depth ≤ 1 then none
        else
          match skipBlanks rest with
          | '\x7d' :: rest => some (obj [], rest)
          | rest => members budget (depth - 1) [] rest
      else if c = '-' then number? true rest
      else if c.isDigit then number? false (c :: rest)
      else if c = 'n' then (word? ['u', 'l', 'l'] rest).map fun rest => (null, rest)
      else if c = 't' then (word? ['r', 'u', 'e'] rest).map fun rest => (bool true, rest)
      else if c = 'f' then (word? ['a', 'l', 's', 'e'] rest).map fun rest => (bool false, rest)
      else none

/-- The items of an array that is not empty, and its closing bracket; `acc` holds those
before, the last one first. -/
def items : (budget depth : Nat) → List Json → List Char → Option (Json × List Char)
  | 0, _, _, _ => none
  | budget + 1, depth, acc, cs =>
    match value budget depth cs with
    | none => none
    | some (v, rest) =>
      match skipBlanks rest with
      | ',' :: rest => items budget depth (v :: acc) rest
      | ']' :: rest => some (arr (v :: acc).reverse, rest)
      | _ => none

/-- The members of an object that is not empty, and its closing brace; `acc` holds those
before, the last one first. -/
def members : (budget depth : Nat) → List (String × Json) → List Char → Option (Json × List Char)
  | 0, _, _, _ => none
  | budget + 1, depth, acc, cs =>
    match skipBlanks cs with
    | '"' :: rest =>
      match stringTail [] none rest with
      | none => none
      | some (key, rest) =>
        match skipBlanks rest with
        | ':' :: rest =>
          match value budget depth rest with
          | none => none
          | some (v, rest) =>
            match skipBlanks rest with
            | ',' :: rest => members budget depth ((key, v) :: acc) rest
            | '\x7d' :: rest => some (obj ((key, v) :: acc).reverse, rest)
            | _ => none
        | _ => none
    | _ => none

end

/-- One value from the front of a text, its members as they are written, and what follows it. -/
def front? (cs : List Char) : Option (Json × List Char) :=
  value (2 * cs.length + 2) depthLimit cs

end Parser

/-- The value that a text denotes. -/
def parse? (text : String) : Option Json :=
  match Parser.front? text.toList with
  | some (v, rest) => if (Parser.skipBlanks rest).isEmpty then some v.canonical else none
  | none => none

end Majuscule.Json
