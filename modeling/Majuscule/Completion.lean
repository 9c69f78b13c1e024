import Majuscule.Protocol.CompletionItem

/-!
# Completion

The server always proposes the same two names. Each carries a tag in its data, by which its details
are found when the client asks for them; an item with any other data comes back as it was.
-/

namespace Majuscule

/-- The names that the server proposes. -/
inductive Candidate where
  | typeScript
  | javaScript
  deriving DecidableEq, Repr

namespace Candidate

/-- All candidates, in the order in which they are proposed. -/
def all : List Candidate := [typeScript, javaScript]

def label : Candidate → String
  | typeScript => "TypeScript"
  | javaScript => "JavaScript"

/-- The tag that an item carries in its data. -/
def tag : Candidate → Nat
  | typeScript => 1
  | javaScript => 2

def detail (c : Candidate) : String := c.label ++ " details"

def documentation (c : Candidate) : String := c.label ++ " documentation"

/-- The candidate with a tag: the integers one and two, never the floating-point numbers. -/
def ofData? : Json → Option Candidate
  | .int 1 => some typeScript
  | .int 2 => some javaScript
  | _ => none

/-- The kind of an item that is plain text. -/
def textKind : Int32 := 1

/-- A candidate as it is proposed, without details. -/
def item (c : Candidate) : CompletionItem where
  label := c.label
  kind := some textKind
  data := some (.nat c.tag)

end Candidate

namespace CompletionItem

/-- The candidate that an item stands for. -/
def candidate? (x : CompletionItem) : Option Candidate :=
  x.data.bind Candidate.ofData?

/-- The item with the details of its candidate, or as it is if it stands for none. -/
def resolve (x : CompletionItem) : CompletionItem :=
  match x.candidate? with
  | some c => { x with detail := some c.detail, documentation := some (.text c.documentation) }
  | none => x

end CompletionItem
end Majuscule
