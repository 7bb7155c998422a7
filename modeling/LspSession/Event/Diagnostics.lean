import LspSession.Json.Conversion

/-!
# `LspSession.Event.Diagnostics`: what a server finds in a document

Diagnostics of one text document, each a message about a range of it. They are read leniently as
far as records go, from objects and arrays alike, and written as objects with members in ascending
order, without the members that have no value.
-/

set_option autoImplicit false

namespace LspSession

open Json

/-- A place in a text document, by `line` and `character` in it, both counted from zero. -/
structure Position where
  line : UInt32
  character : UInt32
  deriving DecidableEq, Repr

/-- The text between two places. Neither is checked to come before the other. -/
structure Range where
  start : Position
  stop : Position
  deriving DecidableEq, Repr

/-- A range of some document, which its `uri` names. -/
structure Location where
  uri : Uri
  range : Range
  deriving DecidableEq

/-- A message about another location that bears on a diagnostic. -/
structure RelatedInformation where
  location : Location
  message : String
  deriving DecidableEq

/-- What a server calls a kind of diagnostic: a number or a text of its own choosing. -/
inductive DiagnosticCode where
  | number (value : Int32)
  | text (value : String)
  deriving DecidableEq, Repr

/-- Where a kind of diagnostic is described, as the address of a page. -/
structure CodeDescription where
  href : Uri
  deriving DecidableEq

/-- A message about a range of a document. The `severity` and the `tags` are kept as the numbers
that they are, known or not, and `data` as it came. -/
structure Diagnostic where
  range : Range
  severity : Option Int32
  code : Option DiagnosticCode
  codeDescription : Option CodeDescription
  source : Option String
  message : String
  relatedInformation : Option (List RelatedInformation)
  tags : Option (List Int32)
  data : Option Json
  deriving DecidableEq

/-- All diagnostics of a document, for one version of it where that is known. They take the place of
those published before. -/
structure Diagnostics where
  uri : Uri
  diagnostics : List Diagnostic
  version : Option Int32
  deriving DecidableEq

/-! ### Reading -/

/-- Reads a position, of two unsigned integers of 32 bits (`Json.toUInt32`). -/
def Position.ofJson : Conversion Position :=
  toRecord ⟨"Position", 2⟩ fun source =>
    Position.mk <$> source.required 0 "line" toUInt32 <*> source.required 1 "character" toUInt32

/-- Reads a range, whose second place is called `end` on the wire. -/
def Range.ofJson : Conversion Range :=
  toRecord ⟨"Range", 2⟩ fun source =>
    Range.mk <$> source.required 0 "start" Position.ofJson
      <*> source.required 1 "end" Position.ofJson

/-- Reads a location. Its address has to be a URI reference (`Json.toUri`). -/
def Location.ofJson : Conversion Location :=
  toRecord ⟨"Location", 2⟩ fun source =>
    Location.mk <$> source.required 0 "uri" toUri <*> source.required 1 "range" Range.ofJson

/-- Reads what belongs to a diagnostic elsewhere, a `location` and a `message`. -/
def RelatedInformation.ofJson : Conversion RelatedInformation :=
  toRecord ⟨"DiagnosticRelatedInformation", 2⟩ fun source =>
    RelatedInformation.mk <$> source.required 0 "location" Location.ofJson
      <*> source.required 1 "message" toText

/-- Reads an integer of 32 bits or a text. Of anything else the error only tells that neither
alternative of `NumberOrString` fits. -/
def DiagnosticCode.ofJson : Conversion DiagnosticCode := fun j =>
  match toInt32 j, toText j with
  | .ok i, _ => .ok (.number i)
  | _, .ok s => .ok (.text s)
  | _, _ => .error (.noAlternative "NumberOrString")

/-- Reads where a code is described. The record has the one member `href`, but it is an object or an
array all the same. -/
def CodeDescription.ofJson : Conversion CodeDescription :=
  toRecord ⟨"CodeDescription", 1⟩ fun source =>
    CodeDescription.mk <$> source.required 0 "href" toUri

/-- Reads a diagnostic. The severity and the tags may be any integers of 32 bits. -/
def Diagnostic.ofJson : Conversion Diagnostic :=
  toRecord ⟨"Diagnostic", 9⟩ fun source =>
    Diagnostic.mk <$> source.required 0 "range" Range.ofJson
      <*> source.optional 1 "severity" toInt32
      <*> source.optional 2 "code" DiagnosticCode.ofJson
      <*> source.optional 3 "codeDescription" CodeDescription.ofJson
      <*> source.optional 4 "source" toText
      <*> source.required 5 "message" toText
      <*> source.optional 6 "relatedInformation" (toList RelatedInformation.ofJson)
      <*> source.optional 7 "tags" (toList toInt32)
      <*> source.optional 8 "data" toAny

/-- Reads the diagnostics of a document. In an object the `version` may be missing or `null`. -/
def Diagnostics.ofJson : Conversion Diagnostics :=
  toRecord ⟨"PublishDiagnosticsParams", 3⟩ fun source =>
    Diagnostics.mk <$> source.required 0 "uri" toUri
      <*> source.required 1 "diagnostics" (toList Diagnostic.ofJson)
      <*> source.optional 2 "version" toInt32

/-! ### Writing -/

/-- An integer as a document, written without fraction and exponent. -/
def Json.ofInt (i : Int) : Json := .number (.integer i)

/-- The object of the members that have a value, in ascending order of their names. -/
def Json.ofPresent (members : List (String × Option Json)) : Json :=
  ofMembers (members.filterMap fun (name, value) => value.map fun j => (name, j))

/-- A position as a document, with `line` and `character` as `Position.ofJson` reads them. -/
def Position.toJson (p : Position) : Json :=
  ofMembers [("line", ofInt p.line.toNat), ("character", ofInt p.character.toNat)]

/-- A range as a document, with its two places as `start` and `end`. -/
def Range.toJson (r : Range) : Json :=
  ofMembers [("start", r.start.toJson), ("end", r.stop.toJson)]

/-- A URI as a document: its `text`, as it was read. -/
def Uri.toJson (u : Uri) : Json := .string u.text

/-- A location as a document, with the address as text. -/
def Location.toJson (l : Location) : Json :=
  ofMembers [("uri", l.uri.toJson), ("range", l.range.toJson)]

/-- What belongs to a diagnostic elsewhere, as a document that `RelatedInformation.ofJson` reads. -/
def RelatedInformation.toJson (r : RelatedInformation) : Json :=
  ofMembers [("location", r.location.toJson), ("message", .string r.message)]

/-- A code as a document, a number or a text as it came. -/
def DiagnosticCode.toJson : DiagnosticCode → Json
  | .number i => ofInt i.toInt
  | .text s => .string s

/-- Where a code is described, as a document of the one member `href`. -/
def CodeDescription.toJson (c : CodeDescription) : Json := ofMembers [("href", c.href.toJson)]

/-- A diagnostic as a document, by `Json.ofPresent` without the members that have no value. An empty
list is a value. -/
def Diagnostic.toJson (d : Diagnostic) : Json :=
  ofPresent [
    ("range", some d.range.toJson),
    ("severity", d.severity.map fun i => ofInt i.toInt),
    ("code", d.code.map DiagnosticCode.toJson),
    ("codeDescription", d.codeDescription.map CodeDescription.toJson),
    ("source", d.source.map .string),
    ("message", some (.string d.message)),
    ("relatedInformation",
      d.relatedInformation.map fun rs => .array (rs.map RelatedInformation.toJson)),
    ("tags", d.tags.map fun ts => .array (ts.map fun i => ofInt i.toInt)),
    ("data", d.data)]

/-- The diagnostics of a document, as a document. The `version` is left out where it is not known.
-/
def Diagnostics.toJson (d : Diagnostics) : Json :=
  ofPresent [
    ("uri", some d.uri.toJson),
    ("diagnostics", some (.array (d.diagnostics.map Diagnostic.toJson))),
    ("version", d.version.map fun i => ofInt i.toInt)]

end LspSession
