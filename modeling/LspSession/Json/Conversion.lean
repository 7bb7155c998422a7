import LspSession.Json.Basic
import LspSession.Uri

/-!
# `LspSession.Json.Conversion`: reading typed values from documents

A conversion takes a document to a value of some type, or to the `ConversionError` that says what
the document holds instead. Integers of each width, texts, URIs and lists are read here, and so
are records.

A record is written as an object or as an array. In an object its fields stand under their names
and other members are ignored; in an array they stand in the order in which the record declares
them. Of several faults in one record the one met first is reported, and `Turn` says which that
is. An object is visited by ascending names, so the bad field with the least name wins, and a
missing field is noticed only after every field that is there. An array is visited from the front,
so the first field that is bad or beyond the end wins.
-/

set_option autoImplicit false

namespace LspSession

/-- What a conversion was looking for: an integer of some width, a text, a list, or a record of some
name. -/
inductive Expected where
  | int32
  | int64
  | uint32
  | text
  | list
  | record (name : String)
  deriving DecidableEq, Repr

/-- The words for what was looked for, as they end `ConversionError.message`. -/
def Expected.message : Expected → String
  | .int32 => "i32"
  | .int64 => "i64"
  | .uint32 => "u32"
  | .text => "a string"
  | .list => "a sequence"
  | .record name => "struct " ++ name

/-- Why a document is not a value of the type looked for. Each error has what its sentence tells,
and no place in the document. -/
inductive ConversionError where
  /-- A record lacks a field. -/
  | missingField (name : String)
  /-- The document is of another kind. -/
  | wrongKind (found : Json) (expected : Expected)
  /-- An integer does not fit. -/
  | outOfRange (value : Int) (expected : Expected)
  /-- An array ends before the record's fields do. -/
  | tooShort (length : Nat) (record : String) (fields : Nat)
  /-- An array goes on after the record's fields. -/
  | tooLong (length : Nat)
  /-- None of the alternatives of a type fits. -/
  | noAlternative (choice : String)
  /-- A text is no URI reference. -/
  | badUri (fault : Uri.Fault)
  deriving DecidableEq

/-- The words for the kind of a document, with its value where that is short. -/
def Json.kindMessage : Json → String
  | .null => "null"
  | .bool true => "boolean `true`"
  | .bool false => "boolean `false`"
  | .number (.integer i) => "integer `" ++ Decimal.renderInt i ++ "`"
  | .number (.float x) => "floating point `" ++ x.render ++ "`"
  | .string s => "string " ++ Text.quote s
  | .array _ => "sequence"
  | .object _ => "map"

/-- The sentence that names an error: what was found, and what was expected in its place. -/
def ConversionError.message : ConversionError → String
  | .missingField name => "missing field `" ++ name ++ "`"
  | .wrongKind found expected =>
    "invalid type: " ++ found.kindMessage ++ ", expected " ++ expected.message
  | .outOfRange value expected =>
    "invalid value: integer `" ++ Decimal.renderInt value ++ "`, expected " ++ expected.message
  | .tooShort length record fields =>
    "invalid length " ++ Decimal.render length ++ ", expected struct " ++ record ++ " with " ++
      Decimal.render fields ++ (if fields = 1 then " element" else " elements")
  | .tooLong length =>
    "invalid length " ++ Decimal.render length ++ ", expected fewer elements in array"
  | .noAlternative choice => "data did not match any variant of untagged enum " ++ choice
  | .badUri fault => fault.message

namespace Json

/-- A conversion to a type: from any document to a value, or to the `ConversionError` that tells why
there is none. -/
abbrev Conversion (α : Type) := Json → Except ConversionError α

/-! ### Single values -/

/-- Reads an integer from `low` up to and excluding `high`. A number with a fraction or an exponent
is none, even if its value is whole. -/
def toIntBetween (low high : Int) (expected : Expected) : Conversion Int
  | .number (.integer i) => if low ≤ i ∧ i < high then .ok i else .error (.outOfRange i expected)
  | j => .error (.wrongKind j expected)

/-- Reads a signed integer of 32 bits. One that does not fit is `outOfRange`. -/
def toInt32 : Conversion Int32 := fun j =>
  (toIntBetween (-(Nat.pow 2 31)) (Nat.pow 2 31) .int32 j).map Int32.ofInt

/-- Reads a signed integer of 64 bits. One that does not fit is `outOfRange`. -/
def toInt64 : Conversion Int64 := fun j =>
  (toIntBetween (-(Nat.pow 2 63)) (Nat.pow 2 63) .int64 j).map Int64.ofInt

/-- Reads an unsigned integer of 32 bits, so a negative number is `outOfRange`. -/
def toUInt32 : Conversion UInt32 := fun j =>
  (toIntBetween 0 (Nat.pow 2 32) .uint32 j).map fun i => UInt32.ofNat i.toNat

/-- Reads a text, which has to be a string. Numbers are not taken for texts. -/
def toText : Conversion String
  | .string s => .ok s
  | j => .error (.wrongKind j .text)

/-- Reads a URI reference, a text that `Uri.ofText` accepts. -/
def toUri : Conversion Uri := fun j => do
  let text ← toText j
  (Uri.ofText text).mapError .badUri

/-- Keeps the document, whatever it is; this is `Except.ok`. -/
def toAny : Conversion Json := .ok

/-- Reads a list of values. The first item that `item` refuses decides the error. -/
def toList {α : Type} (item : Conversion α) : Conversion (List α)
  | .array items => items.mapM item
  | j => .error (.wrongKind j .list)

/-- Reads a value that may be `null`, which stands for `none`. -/
def toOption {α : Type} (value : Conversion α) : Conversion (Option α)
  | .null => .ok none
  | j => (value j).map some

/-! ### Records -/

/-- When a fault of a record is met: by its `rank`, and within a rank by a `name`. In an object only
the faults of fields that are there share a rank. -/
structure Turn where
  rank : Nat
  name : String
  deriving DecidableEq, Repr

/-- Whether a turn comes before another. Turns of one `rank` and `name` are the same field's. -/
def Turn.before (a b : Turn) : Bool :=
  a.rank < b.rank || (a.rank == b.rank && decide (a.name < b.name))

/-- The fields of a record read so far, or the fault that is met first among them. It is an
`Applicative`, so a record reads as its constructor applied to its fields. -/
inductive Fields (α : Type) where
  | ok (value : α)
  | fault (turn : Turn) (error : ConversionError)

namespace Fields

/-- Applies a function to what was read, and keeps a `fault` as it is. -/
def map {α β : Type} (f : α → β) : Fields α → Fields β
  | .ok a => .ok (f a)
  | .fault t e => .fault t e

/-- Two groups of fields together. Of two faults the one met first is kept, by `Turn.before`,
whichever group it is in. -/
def both {α β : Type} : Fields (α → β) → Fields α → Fields β
  | .ok f, .ok a => .ok (f a)
  | .fault t e, .ok _ => .fault t e
  | .ok _, .fault t e => .fault t e
  -- A field that is declared later may be met earlier, as members are visited by name.
  | .fault t e, .fault u d => if u.before t then .fault u d else .fault t e

instance : Applicative Fields where
  pure := .ok
  map := map
  seq f a := both f (a ())

/-- The record, or its first `ConversionError` without the turn at which it was met. -/
def result {α : Type} : Fields α → Except ConversionError α
  | .ok a => .ok a
  | .fault _ e => .error e

end Fields

/-- The `name` by which a record calls itself and how many `fields` it declares, which is the
greatest length of an array for it. -/
structure RecordShape where
  name : String
  fields : Nat
  deriving DecidableEq, Repr

/-- Where the fields of a record come from: the `members` of an object, or the `items` of an array.
-/
inductive FieldSource where
  | members (members : List (String × Json))
  | items (shape : RecordShape) (items : List Json)

namespace FieldSource

/-- Reads the field that is declared at `index`. `absent` is its value when an object does not have
it, and `short` its value when an array ends before it. -/
def field {α : Type} (source : FieldSource) (index : Nat) (name : String) (value : Conversion α)
    (absent short : Option α) : Fields α :=
  match source with
  | .members named =>
    match member? name named, absent with
    | some j, _ =>
      match value j with
      | .ok a => .ok a
      | .error e => .fault ⟨0, name⟩ e
    | none, some a => .ok a
    -- What is missing is looked for when all members have been visited.
    | none, none => .fault ⟨1 + index, ""⟩ (.missingField name)
  | .items shape listed =>
    match listed[index]?, short with
    | some j, _ =>
      match value j with
      | .ok a => .ok a
      | .error e => .fault ⟨index, ""⟩ e
    | none, some a => .ok a
    | none, none => .fault ⟨index, ""⟩ (.tooShort listed.length shape.name shape.fields)

/-- Reads a `field` that has to be there, in an object and in an array. -/
def required {α : Type} (source : FieldSource) (index : Nat) (name : String)
    (value : Conversion α) : Fields α :=
  source.field index name value none none

/-- Reads a field that an object may lack or have as `null`. An array has to have it, if only as
`null`. -/
def optional {α : Type} (source : FieldSource) (index : Nat) (name : String)
    (value : Conversion α) : Fields (Option α) :=
  source.field index name (toOption value) (some none) none

/-- Reads a field that an object may lack and an array may end before, or that is `null` in either.
-/
def trailing {α : Type} (source : FieldSource) (index : Nat) (name : String)
    (value : Conversion α) : Fields (Option α) :=
  source.field index name (toOption value) (some none) (some none)

end FieldSource

/-- Reads a record by reading its fields from where they stand. An array that is too long
(`tooLong`) is at fault only if all fields can be read. -/
def toRecord {α : Type} (shape : RecordShape) (fields : FieldSource → Fields α) : Conversion α
  | .object members => (fields (.members members)).result
  | .array items => do
    let value ← (fields (.items shape items)).result
    -- What is left over is noticed only behind the last field.
    if shape.fields < items.length then .error (.tooLong items.length) else return value
  | j => .error (.wrongKind j (.record shape.name))

/-! ### Small facts -/

/-- A string is read as its text. -/
@[simp] theorem toText_string (s : String) : toText (.string s) = .ok s := rfl

/-- A `null` is read as no value. -/
@[simp] theorem toOption_null {α : Type} (value : Conversion α) :
    toOption value .null = .ok none := rfl

end Json

end LspSession
