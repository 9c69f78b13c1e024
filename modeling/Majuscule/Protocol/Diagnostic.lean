import Majuscule.Protocol.Range

/-!
# Diagnostics

A diagnostic is a problem that a tool reports for a range of a document. The server reports some of
its own, and clients send diagnostics of any tool along when they ask for code actions, so all
fields of the protocol are kept.
-/

namespace Majuscule

open Decode Record

/-- A number or a text. -/
inductive NumberOrString where
  | number (n : Int32)
  | text (s : String)
  deriving DecidableEq, Repr

namespace NumberOrString

def decode : Decoder NumberOrString :=
  union "NumberOrString" (fun v => (int32 v).map number) (fun v => (Decode.text v).map text)

def encode : NumberOrString → Json
  | number n => .int n.toInt
  | text s => .str s

end NumberOrString

/-- Where a diagnostic code is explained. -/
structure CodeDescription where
  href : Url
  deriving DecidableEq, Repr

namespace CodeDescription

def decode : Decoder CodeDescription :=
  (CodeDescription.mk <$> required "href" url).decode "CodeDescription"

def encode (d : CodeDescription) : Json :=
  .obj [("href", d.href.encode)]

end CodeDescription

/-- A range in some document. -/
structure Location where
  uri : Url
  range : Range
  deriving DecidableEq, Repr

namespace Location

def decode : Decoder Location :=
  (Location.mk <$> required "uri" url <*> required "range" Range.decode).decode "Location"

def encode (l : Location) : Json :=
  .obj [("uri", l.uri.encode), ("range", l.range.encode)]

end Location

/-- A place that has to do with a diagnostic, and how. -/
structure RelatedInformation where
  location : Location
  message : String
  deriving DecidableEq, Repr

namespace RelatedInformation

def decode : Decoder RelatedInformation :=
  (RelatedInformation.mk <$> required "location" Location.decode <*> required "message" text).decode
    "DiagnosticRelatedInformation"

def encode (r : RelatedInformation) : Json :=
  .obj [("location", r.location.encode), ("message", .str r.message)]

end RelatedInformation

/-- A problem in a document. -/
structure Diagnostic where
  range : Range
  severity : Option Int32 := none
  code : Option NumberOrString := none
  codeDescription : Option CodeDescription := none
  source : Option String := none
  message : String
  relatedInformation : Option (List RelatedInformation) := none
  tags : Option (List Int32) := none
  data : Option Json := none
  deriving Repr

namespace Diagnostic

def record : Record Diagnostic :=
  Diagnostic.mk <$> required "range" Range.decode
    <*> optional "severity" int32
    <*> optional "code" NumberOrString.decode
    <*> optional "codeDescription" CodeDescription.decode
    <*> optional "source" text
    <*> required "message" text
    <*> optional "relatedInformation" (list RelatedInformation.decode)
    <*> optional "tags" (list int32)
    <*> optional "data" any

def decode : Decoder Diagnostic := record.decode "Diagnostic"

def encode (d : Diagnostic) : Json :=
  .object [
    ("range", some d.range.encode),
    ("severity", d.severity.map fun n => .int n.toInt),
    ("code", d.code.map NumberOrString.encode),
    ("codeDescription", d.codeDescription.map CodeDescription.encode),
    ("source", d.source.map .str),
    ("message", some (.str d.message)),
    ("relatedInformation", d.relatedInformation.map fun rs =>
      .arr (rs.map RelatedInformation.encode)),
    ("tags", d.tags.map fun ns => .arr (ns.map fun n => .int n.toInt)),
    ("data", d.data)]

/-- A list of diagnostics on the wire. -/
def encodeList (ds : List Diagnostic) : Json :=
  .arr (ds.map encode)

end Diagnostic
end Majuscule
