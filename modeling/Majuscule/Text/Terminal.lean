/-!
# Text without terminal control

A text for a terminal may hold sequences that control it: colours, titles, device commands.
`Terminal.plain` leaves them out, and with them all control characters but blanks and line breaks,
so that nothing but readable text is left.

A sequence starts with the escape character, and what follows decides where it ends (`Mode`,
`Mode.step`). A line break or another blank control character inside the head of a sequence breaks
it off. The sequences are made of bytes, so a character outside ASCII takes part in one with each of
its bytes.
-/

namespace Majuscule.Text.Terminal

/-- Where in a sequence a place is. -/
inductive Mode where
  | ground
  /-- Right after the escape character. -/
  | escape
  /-- After more marks of a short sequence. -/
  | marked
  /-- In a control sequence, up to the letter that ends it. -/
  | control
  /-- In a command for the operating system, up to the bell. -/
  | command
  /-- At the start of a device string, before any of its parameters. -/
  | deviceEntry
  | deviceParameters
  | deviceMarked
  /-- In the body of a device string, up to its terminator. -/
  | deviceBody
  /-- In a string of any other kind, up to its terminator. -/
  | string
  deriving DecidableEq, Repr

/-- The byte that ends a string. -/
def terminator : UInt8 := 0x9C

/-- Whether a byte lies between two others, both included. -/
def within (low high b : UInt8) : Bool :=
  low ≤ b && b ≤ high

namespace Mode

/-- What follows the escape character decides the kind of the sequence. -/
def afterEscape (b : UInt8) : Mode :=
  if b = 0x50 then deviceEntry
  else if b = 0x58 || b = 0x5E || b = 0x5F then string
  else if b = 0x5B then control
  else if b = 0x5D then command
  else if within 0x20 0x2F b then marked
  else if within 0x30 0x7E b then ground
  else escape

/-- The head of a device string: parameters, then marks, then a letter. -/
def inDeviceHead (m : Mode) (b : UInt8) : Mode :=
  if within 0x40 0x7E b then deviceBody
  else if within 0x20 0x2F b then deviceMarked
  else if within 0x30 0x3F b then
    match m with
    | deviceEntry => if b = 0x3A then deviceBody else deviceParameters
    | deviceParameters => if within 0x30 0x39 b || b = 0x3B then deviceParameters else deviceBody
    | _ => deviceBody
  else m

/-- The mode after a byte that does not show. -/
def step (m : Mode) (b : UInt8) : Mode :=
  if b = 0x18 || b = 0x1A then ground
  else if b = 0x1B then escape
  else
    match m with
    | ground => ground
    | escape => afterEscape b
    | marked => if within 0x30 0x7E b then ground else marked
    | control => if within 0x40 0x7E b then ground else control
    | command => if b = 7 then ground else command
    | deviceBody => if b = terminator then ground else deviceBody
    | string => if b = terminator then ground else string
    | m => m.inDeviceHead b

/-- The control characters that show: tab, line feed, form feed and carriage return. -/
def isBlankControl (c : Char) : Bool :=
  c = '\t' || c = '\n' || c = '\x0c' || c = '\r'

/-- Whether a character shows, and ends the sequence before it if there is one. -/
def shows (m : Mode) (c : Char) : Bool :=
  match m with
  | ground => isBlankControl c || (0x20 ≤ c.toNat && c.toNat ≠ 0x7F)
  | escape => isBlankControl c
  | marked => isBlankControl c
  | control => isBlankControl c
  | _ => false

end Mode

/-- The characters that show. -/
def visible (m : Mode) : List Char → List Char
  | [] => []
  | c :: rest =>
    if m.shows c then c :: visible .ground rest
    else visible ((String.singleton c).toUTF8.toList.foldl Mode.step m) rest

/-- A text without terminal control. -/
def plain (s : String) : String :=
  String.ofList (visible .ground s.toList)

/-- The first line of a text, without the carriage return before its end. -/
def firstLine (s : String) : String :=
  let line := s.toList.takeWhile (· ≠ '\n')
  if line.length < s.toList.length && line.getLast? = some '\r' then String.ofList line.dropLast
  else String.ofList line

end Majuscule.Text.Terminal
