import Majuscule.Lifecycle
import Majuscule.Protocol.Params
import Majuscule.Scan

/-!
# The quick fix and its command

For each problem that this server reported a client is offered a quick fix. The fix holds no edit of
its own but a command; when the client sends that command back, its arguments, the document and the
range, are decoded again (`Command.parse`) and the server proposes the edit (`Command.edit`).
-/

namespace Majuscule

open Decode

/-- A command that the server carries out. -/
inductive Command where
  | lowerCase (uri : Url) (range : Range)
  deriving DecidableEq, Repr

/-- Edits to documents. -/
structure WorkspaceEdit where
  changes : List (Url × List TextEdit)
  deriving DecidableEq, Repr

def WorkspaceEdit.encode (e : WorkspaceEdit) : Json :=
  .obj [("changes", .obj (e.changes.map fun c => (c.1.text, .arr (c.2.map TextEdit.encode))))]

/-- Why a positional argument cannot be used. -/
inductive ArgumentError where
  | missing (index : Nat) (name : String)
  | malformed (index : Nat) (name : String) (cause : DecodeError)

/-- The wording of an argument error. -/
def ArgumentError.message : ArgumentError → String
  | missing index name => "missing argument " ++ toString index ++ " (" ++ name ++ ")"
  | malformed index name cause =>
    "argument " ++ toString index ++ " (" ++ name ++ "): " ++ cause.message

/-- The argument at position `index`. -/
def positional (arguments : List Json) (index : Nat) (name : String) (decode : Decoder α) :
    Except ArgumentError α :=
  match arguments[index]? with
  | none => .error (.missing index name)
  | some v =>
    match decode v with
    | .ok a => .ok a
    | .error e => .error (.malformed index name e)

namespace Command

/-- The name of the command. -/
def lowerCaseId : String := "myToLowerCase"

/-- The names of all commands. -/
def ids : List String := [lowerCaseId]

def id : Command → String
  | lowerCase _ _ => lowerCaseId

def title : Command → String
  | lowerCase _ _ => "To Lower Case"

/-- What is put in the place of a word in capitals. -/
def replacement : String := "foo"

/-- The document and the range of a command. -/
def lowerCaseArguments (arguments : List Json) : Except ArgumentError Command := do
  let uri ← positional arguments 0 "uri" url
  let range ← positional arguments 1 "range" Range.decode
  return lowerCase uri range

/-- The command with a name and arguments; none if the server has no command of that name. -/
def parse (name : String) (arguments : List Json) : Except Refusal (Option Command) :=
  if name = lowerCaseId then
    match lowerCaseArguments arguments with
    | .ok c => .ok (some c)
    | .error e => .error (.invalidArguments name e.message)
  else .ok none

/-- The command as a client sends it back. -/
def link : Command → CommandLink
  | c@(lowerCase uri range) => ⟨c.title, c.id, some [uri.encode, range.encode]⟩

/-- The edit that a command proposes. -/
def edit : Command → WorkspaceEdit
  | lowerCase uri range => ⟨[(uri, [⟨range, replacement⟩])]⟩

end Command

/-- A quick fix for one diagnostic, by a command. -/
structure QuickFix where
  diagnostic : Diagnostic
  command : Command
  deriving Repr

namespace QuickFix

/-- The kind of code action that a quick fix is. -/
def kind : String := "quickfix"

/-- The quick fix for a diagnostic of a document. -/
def ofDiagnostic (uri : Url) (d : Diagnostic) : QuickFix :=
  ⟨d, .lowerCase uri d.range⟩

/-- The quick fixes for those diagnostics that this server reported. -/
def offer (uri : Url) (diagnostics : List Diagnostic) : List QuickFix :=
  (diagnostics.filter fun d => d.source = some Scan.source).map (ofDiagnostic uri)

def encode (q : QuickFix) : Json :=
  .obj [("title", .str q.command.title), ("kind", .str kind),
    ("diagnostics", Diagnostic.encodeList [q.diagnostic]), ("command", q.command.link.encode)]

end QuickFix
end Majuscule
