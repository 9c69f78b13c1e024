import Majuscule.Protocol.Diagnostic
import Majuscule.Text.Utf16
import Majuscule.Text.WordChar

/-!
# Words in capitals

The scan reports every word of two or more letters that are all capitals `A` to `Z`. A word is a
maximal run of word characters, so a line falls into words and single characters between them
(`pieces`), and nothing is lost (`flatten_pieces`). Each reported word gives a diagnostic with its
line and its columns in UTF-16 code units; lines come in order, and so do the words of a line.
-/

namespace Majuscule.Scan

open Text

/-! ## Words of a line -/

/-- A maximal run of word characters, or one character between such runs. -/
inductive Piece where
  | word (letters : List Char)
  | gap (c : Char)
  deriving DecidableEq, Repr

namespace Piece

/-- The characters of a piece. -/
def chars : Piece → List Char
  | word letters => letters
  | gap c => [c]

end Piece

/-- Put a word character in front of a line: it joins a word that the line starts with. -/
def consLetter (c : Char) : List Piece → List Piece
  | .word letters :: rest => .word (c :: letters) :: rest
  | rest => .word [c] :: rest

/-- A line as words and the characters between them. -/
def pieces : List Char → List Piece
  | [] => []
  | c :: cs => if isWordChar c then consLetter c (pieces cs) else .gap c :: pieces cs

theorem flatMap_consLetter (c : Char) (ps : List Piece) :
    (consLetter c ps).flatMap Piece.chars = c :: ps.flatMap Piece.chars := by
  unfold consLetter
  split <;> simp [Piece.chars]

theorem flatten_pieces (cs : List Char) : (pieces cs).flatMap Piece.chars = cs := by
  induction cs with
  | nil => rfl
  | cons c cs ih =>
    rw [pieces]
    split
    · rw [flatMap_consLetter, ih]
    · simp [Piece.chars, ih]

/-! ## Words in capitals -/

/-- The capitals `A` to `Z`. -/
def isCapital (c : Char) : Bool :=
  'A' ≤ c && c ≤ 'Z'

/-- Two letters or more, all of them capitals. -/
def isShout (letters : List Char) : Bool :=
  2 ≤ letters.length && letters.all isCapital

/-- A word in capitals and the column where it starts. -/
structure Shout where
  column : Nat
  letters : List Char
  deriving DecidableEq, Repr

/-- The words in capitals among `pieces` that start at `column`. -/
def shoutsFrom (column : Nat) : List Piece → List Shout
  | [] => []
  | .gap c :: rest => shoutsFrom (column + Utf16.width c) rest
  | .word letters :: rest =>
    let later := shoutsFrom (column + Utf16.length letters) rest
    if isShout letters then ⟨column, letters⟩ :: later else later

/-- The words in capitals of a line, from left to right. -/
def shouts (line : List Char) : List Shout :=
  shoutsFrom 0 (pieces line)

/-! ## Diagnostics -/

/-- The source that the diagnostics of this server name. -/
def source : String := "ex"

/-- The severity of a warning. -/
def warning : Int32 := 2

/-- Where a word in capitals stands; lines and columns are unsigned 32-bit integers. -/
def Shout.range (line : Nat) (s : Shout) : Range :=
  let start := s.column.toUInt32
  ⟨⟨line.toUInt32, start⟩, ⟨line.toUInt32, start + (Utf16.length s.letters).toUInt32⟩⟩

/-- The diagnostic for a word in capitals. -/
def Shout.diagnostic (line : Nat) (s : Shout) : Diagnostic where
  range := s.range line
  severity := some warning
  source := some source
  message := String.ofList s.letters ++ " is all uppercase."

/-- The diagnostics of some lines, the first of which has number `line`. -/
def diagnoseLines (line : Nat) : List (List Char) → List Diagnostic
  | [] => []
  | l :: rest => (shouts l).map (Shout.diagnostic line) ++ diagnoseLines (line + 1) rest

end Scan

/-- All problems of a text, in order. -/
def diagnose (text : String) : List Diagnostic :=
  Scan.diagnoseLines 0 (Text.lines text.toList)

end Majuscule
