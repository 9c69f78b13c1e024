import Majuscule.Decode.Record

/-!
# Positions, ranges and edits

A position is a line and a column in UTF-16 code units, both counted from zero; a range runs from
one position up to, but not including, another. A text edit puts a text in the place of a range.
-/

namespace Majuscule

open Decode Record

/-- A place in a document. -/
structure Position where
  line : UInt32
  character : UInt32
  deriving DecidableEq, Repr

/-- A stretch of a document. -/
structure Range where
  start : Position
  stop : Position
  deriving DecidableEq, Repr

/-- A text to put in the place of a range. -/
structure TextEdit where
  range : Range
  newText : String
  deriving DecidableEq, Repr

namespace Position

def record : Record Position :=
  Position.mk <$> required "line" uint32 <*> required "character" uint32

def decode : Decoder Position := record.decode "Position"

def encode (p : Position) : Json :=
  .obj [("line", .nat p.line.toNat), ("character", .nat p.character.toNat)]

/-- A position that is written decodes to itself. -/
theorem decode_encode (p : Position) : decode p.encode = .ok p := by
  have hline : (required "line" uint32).ofMembers
      [("line", .nat p.line.toNat), ("character", .nat p.character.toNat)] = .done p.line :=
    ofMembers_required rfl (uint32_nat p.line)
  have hcharacter : (required "character" uint32).ofMembers
      [("line", .nat p.line.toNat), ("character", .nat p.character.toNat)] = .done p.character :=
    ofMembers_required rfl (uint32_nat p.character)
  rw [encode, decode, Record.decode, Record.read, record, ofMembers_seq, ofMembers_map, hline,
    hcharacter]
  rfl

/-- A position as the log shows it. -/
def logText (p : Position) : String :=
  "Position \x7b line: " ++ toString p.line.toNat ++ ", character: " ++
    toString p.character.toNat ++ " \x7d"

end Position

namespace Range

def record : Record Range :=
  Range.mk <$> required "start" Position.decode <*> required "end" Position.decode

def decode : Decoder Range := record.decode "Range"

def encode (r : Range) : Json :=
  .obj [("start", r.start.encode), ("end", r.stop.encode)]

/-- A range that is written decodes to itself. -/
theorem decode_encode (r : Range) : decode r.encode = .ok r := by
  have hstart : (required "start" Position.decode).ofMembers
      [("start", r.start.encode), ("end", r.stop.encode)] = .done r.start :=
    ofMembers_required rfl (Position.decode_encode r.start)
  have hstop : (required "end" Position.decode).ofMembers
      [("start", r.start.encode), ("end", r.stop.encode)] = .done r.stop :=
    ofMembers_required rfl (Position.decode_encode r.stop)
  rw [encode, decode, Record.decode, Record.read, record, ofMembers_seq, ofMembers_map, hstart,
    hstop]
  rfl

/-- A range as the log shows it. -/
def logText (r : Range) : String :=
  "Range \x7b start: " ++ r.start.logText ++ ", end: " ++ r.stop.logText ++ " \x7d"

end Range

namespace TextEdit

def record : Record TextEdit :=
  TextEdit.mk <$> required "range" Range.decode <*> required "newText" text

def decode : Decoder TextEdit := record.decode "TextEdit"

def encode (e : TextEdit) : Json :=
  .obj [("range", e.range.encode), ("newText", .str e.newText)]

end TextEdit

/-- A URL on the wire is its text. -/
def Url.encode (u : Url) : Json := .str u.text

end Majuscule
