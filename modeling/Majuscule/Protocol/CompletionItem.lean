import Majuscule.Protocol.Range

/-!
# Completion items

A candidate that completes what is being typed. Items travel to the client and come back for their
details, so all fields of the protocol are kept, whoever filled them in.
-/

namespace Majuscule

open Decode Record

/-- What is shown beside the label of an item. -/
structure LabelDetails where
  detail : Option String
  description : Option String
  deriving DecidableEq, Repr

namespace LabelDetails

def decode : Decoder LabelDetails :=
  (LabelDetails.mk <$> optional "detail" text <*> optional "description" text).decode
    "CompletionItemLabelDetails"

def encode (d : LabelDetails) : Json :=
  .object [("detail", d.detail.map .str), ("description", d.description.map .str)]

end LabelDetails

/-- How a documentation text is marked up. -/
inductive MarkupKind where
  | plaintext
  | markdown
  deriving DecidableEq, Repr

namespace MarkupKind

def decode : Decoder MarkupKind :=
  choice [("plaintext", plaintext), ("markdown", markdown)]

def encode : MarkupKind → Json
  | plaintext => .str "plaintext"
  | markdown => .str "markdown"

end MarkupKind

/-- A documentation text, plain or marked up. -/
inductive Documentation where
  | text (s : String)
  | markup (kind : MarkupKind) (value : String)
  deriving DecidableEq, Repr

namespace Documentation

def decode : Decoder Documentation :=
  union "Documentation" (fun v => (Decode.text v).map text)
    ((markup <$> required "kind" MarkupKind.decode <*> required "value" Decode.text).decode
      "MarkupContent")

def encode : Documentation → Json
  | text s => .str s
  | markup kind value => .obj [("kind", kind.encode), ("value", .str value)]

end Documentation

/-- The edit that accepting an item makes: one, or one for inserting and one for replacing. -/
inductive CompletionEdit where
  | edit (e : TextEdit)
  | insertReplace (newText : String) (insert replace : Range)
  deriving DecidableEq, Repr

namespace CompletionEdit

def decode : Decoder CompletionEdit :=
  union "CompletionTextEdit" (fun v => (TextEdit.decode v).map edit)
    ((insertReplace <$> required "newText" text <*> required "insert" Range.decode
      <*> required "replace" Range.decode).decode "InsertReplaceEdit")

def encode : CompletionEdit → Json
  | edit e => e.encode
  | insertReplace newText insert replace =>
    .obj [("newText", .str newText), ("insert", insert.encode), ("replace", replace.encode)]

end CompletionEdit

/-- A command for the client to send back. -/
structure CommandLink where
  title : String
  command : String
  arguments : Option (List Json)
  deriving Repr

namespace CommandLink

def decode : Decoder CommandLink :=
  (CommandLink.mk <$> required "title" text <*> required "command" text
    <*> optional "arguments" (list any)).decode "Command"

def encode (c : CommandLink) : Json :=
  .object [("title", some (.str c.title)), ("command", some (.str c.command)),
    ("arguments", c.arguments.map .arr)]

end CommandLink

/-- A completion candidate. -/
structure CompletionItem where
  label : String
  labelDetails : Option LabelDetails := none
  kind : Option Int32 := none
  detail : Option String := none
  documentation : Option Documentation := none
  deprecated : Option Bool := none
  preselect : Option Bool := none
  sortText : Option String := none
  filterText : Option String := none
  insertText : Option String := none
  insertTextFormat : Option Int32 := none
  insertTextMode : Option Int32 := none
  textEdit : Option CompletionEdit := none
  additionalTextEdits : Option (List TextEdit) := none
  command : Option CommandLink := none
  commitCharacters : Option (List String) := none
  data : Option Json := none
  tags : Option (List Int32) := none
  deriving Repr

namespace CompletionItem

def record : Record CompletionItem :=
  CompletionItem.mk <$> required "label" text
    <*> optional "labelDetails" LabelDetails.decode
    <*> optional "kind" int32
    <*> optional "detail" text
    <*> optional "documentation" Documentation.decode
    <*> optional "deprecated" boolean
    <*> optional "preselect" boolean
    <*> optional "sortText" text
    <*> optional "filterText" text
    <*> optional "insertText" text
    <*> optional "insertTextFormat" int32
    <*> optional "insertTextMode" int32
    <*> optional "textEdit" CompletionEdit.decode
    <*> optional "additionalTextEdits" (list TextEdit.decode)
    <*> optional "command" CommandLink.decode
    <*> optional "commitCharacters" (list text)
    <*> optional "data" any
    <*> optional "tags" (list int32)

def decode : Decoder CompletionItem := record.decode "CompletionItem"

def encode (c : CompletionItem) : Json :=
  .object [
    ("label", some (.str c.label)),
    ("labelDetails", c.labelDetails.map LabelDetails.encode),
    ("kind", c.kind.map fun n => .int n.toInt),
    ("detail", c.detail.map .str),
    ("documentation", c.documentation.map Documentation.encode),
    ("deprecated", c.deprecated.map .bool),
    ("preselect", c.preselect.map .bool),
    ("sortText", c.sortText.map .str),
    ("filterText", c.filterText.map .str),
    ("insertText", c.insertText.map .str),
    ("insertTextFormat", c.insertTextFormat.map fun n => .int n.toInt),
    ("insertTextMode", c.insertTextMode.map fun n => .int n.toInt),
    ("textEdit", c.textEdit.map CompletionEdit.encode),
    ("additionalTextEdits", c.additionalTextEdits.map fun es => .arr (es.map TextEdit.encode)),
    ("command", c.command.map CommandLink.encode),
    ("commitCharacters", c.commitCharacters.map fun cs => .arr (cs.map .str)),
    ("data", c.data),
    ("tags", c.tags.map fun ns => .arr (ns.map fun n => .int n.toInt))]

end CompletionItem
end Majuscule
