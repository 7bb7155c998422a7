import Mathlib.Data.List.Forall2
import LspSession.Json.Conversion
import LspSession.Proofs.Outcome
import LspSession.Proofs.Uri

/-!
# `LspSession.Proofs.Json.Record`: which documents are read as which values

A conversion gives a value, or says what is wrong with the document. Here stands from which
documents each of the basic conversions gives which value, and what it takes to read a record.

A record is an object or an array (`IsRecord`), and each of its fields has a document, found by name
or by place (`field?`). Reading a record comes down to reading its fields, whichever way it is
written (`toRecord_eq_ok_iff`). The two ways differ in one point: a field that an object may lack
has to be there in an array, unless the array may end before it.
-/

set_option autoImplicit false

namespace LspSession.Json

variable {α β : Type}

/-! ### Single values -/

/-- A text is read by `toText` from the string that it is, and from nothing else. -/
theorem toText_eq_ok_iff {document : Json} {text : String} :
    toText document = .ok text ↔ document = .string text := by
  cases document <;> simp [toText]

/-- An integer within bounds is read by `toIntBetween` from the number that it is. A number with a
fraction or an exponent is no integer here, even if its value is one. -/
theorem toIntBetween_eq_ok_iff {low high i : Int} {expected : Expected} {document : Json} :
    toIntBetween low high expected document = .ok i ↔
      document = .number (.integer i) ∧ low ≤ i ∧ i < high := by
  unfold toIntBetween
  split
  · next found =>
    split
    · next hfits =>
      rw [Except.ok.injEq, Json.number.injEq, Number.integer.injEq]
      exact ⟨fun h => ⟨h, h ▸ hfits⟩, And.left⟩
    · next hfits =>
      refine iff_of_false nofun fun ⟨h, hlow, hhigh⟩ => hfits ?_
      rw [Json.number.injEq, Number.integer.injEq] at h
      rw [h]
      exact ⟨hlow, hhigh⟩
  · next hother => exact iff_of_false nofun fun h => hother _ h.1

/-- An integer of 64 bits is read by `toInt64` from the number that it is. Every such integer lies
within the bounds, so no bound is left in the statement. -/
theorem toInt64_eq_ok_iff {document : Json} {i : Int64} :
    toInt64 document = .ok i ↔ document = .number (.integer i.toInt) := by
  -- The bounds of the reader are those of the word, so they exclude none of its numbers.
  have hrange : -(Nat.pow 2 63 : Int) ≤ i.toInt ∧ i.toInt < (Nat.pow 2 63 : Int) :=
    ⟨i.le_toInt, i.toInt_lt⟩
  rw [toInt64, map_eq_ok_iff]
  constructor
  · rintro ⟨j, hread, rfl⟩
    obtain ⟨hdocument, hlow, hhigh⟩ := toIntBetween_eq_ok_iff.mp hread
    rw [hdocument, Int64.toInt_ofInt_of_le hlow hhigh]
  · intro hdocument
    exact ⟨i.toInt, toIntBetween_eq_ok_iff.mpr ⟨hdocument, hrange⟩, Int64.ofInt_toInt i⟩

/-- An integer of 32 bits is read by `toInt32` from the number that it is. -/
theorem toInt32_eq_ok_iff {document : Json} {i : Int32} :
    toInt32 document = .ok i ↔ document = .number (.integer i.toInt) := by
  have hrange : -(Nat.pow 2 31 : Int) ≤ i.toInt ∧ i.toInt < (Nat.pow 2 31 : Int) :=
    ⟨i.le_toInt, i.toInt_lt⟩
  rw [toInt32, map_eq_ok_iff]
  constructor
  · rintro ⟨j, hread, rfl⟩
    obtain ⟨hdocument, hlow, hhigh⟩ := toIntBetween_eq_ok_iff.mp hread
    rw [hdocument, Int32.toInt_ofInt_of_le hlow hhigh]
  · intro hdocument
    exact ⟨i.toInt, toIntBetween_eq_ok_iff.mpr ⟨hdocument, hrange⟩, Int32.ofInt_toInt i⟩

/-- An integer of 32 bits without a sign is read by `toUInt32` from the number that it is. -/
theorem toUInt32_eq_ok_iff {document : Json} {n : UInt32} :
    toUInt32 document = .ok n ↔ document = .number (.integer n.toNat) := by
  have hrange : (n.toNat : Int) < (Nat.pow 2 32 : Nat) := Int.ofNat_lt.mpr n.toNat_lt
  rw [toUInt32, map_eq_ok_iff]
  constructor
  · rintro ⟨i, hread, rfl⟩
    obtain ⟨hdocument, hlow, hhigh⟩ := toIntBetween_eq_ok_iff.mp hread
    obtain ⟨m, rfl⟩ := Int.eq_ofNat_of_zero_le hlow
    rw [hdocument, Int.toNat_natCast, UInt32.toNat_ofNat_of_lt' (Int.ofNat_lt.mp hhigh)]
  · intro hdocument
    exact ⟨n.toNat, toIntBetween_eq_ok_iff.mpr ⟨hdocument, Int.natCast_nonneg _, hrange⟩,
      UInt32.ofNat_toNat⟩

/-- A URI is read by `toUri` from the string that it is. The text is kept as it was written, and
`Uri.ofText` only checks it. -/
theorem toUri_eq_ok_iff {document : Json} {uri : Uri} :
    toUri document = .ok uri ↔ document = .string uri.text := by
  rw [toUri, bind_eq_ok_iff]
  constructor
  · rintro ⟨text, htext, huri⟩
    rw [toText_eq_ok_iff.mp htext, ← Uri.text_of_ofText (mapError_eq_ok_iff.mp huri)]
  · intro hdocument
    exact ⟨uri.text, toText_eq_ok_iff.mpr hdocument,
      mapError_eq_ok_iff.mpr (Uri.ofText_text uri)⟩

/-- Items are read one by one, each as the value at its place. One item that is not read makes the
whole list fail, so a result relates all of them. -/
theorem mapM_eq_ok_iff {ε : Type} {read : α → Except ε β} {items : List α} {values : List β} :
    items.mapM read = .ok values ↔
      List.Forall₂ (fun item value => read item = .ok value) items values := by
  induction items generalizing values with
  | nil => simp [pure, Except.pure, eq_comm]
  | cons item rest ih =>
    rw [List.mapM_cons, bind_eq_ok_iff, List.forall₂_cons_left_iff]
    refine exists_congr fun value => ?_
    rw [bind_eq_ok_iff, ← exists_and_left]
    refine exists_congr fun later => ?_
    rw [ih, and_congr_right_iff]
    exact fun _ => and_congr_right fun _ => by simp [pure, Except.pure, eq_comm]

/-- A list is read by `toList` from an array whose items are read as its values, in their order. -/
theorem toList_eq_ok_iff {item : Conversion α} {document : Json} {values : List α} :
    toList item document = .ok values ↔
      ∃ items, document = .array items ∧
        List.Forall₂ (fun j value => item j = .ok value) items values := by
  cases document with
  | array items => simp [toList, mapM_eq_ok_iff]
  | null | bool | number | string | object => simp [toList]

/-- A value that may be `null` is none, or read from what is not `null`. The conversion `value`
itself is never given a `null`. -/
theorem toOption_eq_ok_iff {value : Conversion α} {document : Json} {a : Option α} :
    toOption value document = .ok a ↔
      (document = .null ∧ a = none) ∨
        (document ≠ .null ∧ ∃ x, value document = .ok x ∧ a = some x) := by
  cases document with
  | null => simp [toOption, eq_comm]
  | bool | number | string | array | object =>
    rw [toOption, map_eq_ok_iff]
    · simp [eq_comm]
    · exact nofun

/-- A value that may be missing: there is no document or `null` for none, and a document that spells
the value if there is one. -/
inductive Optional (spells : Json → α → Prop) : Option Json → Option α → Prop where
  | absent : Optional spells none none
  | null : Optional spells (some .null) none
  | value {document : Json} {a : α} (h : spells document a) :
    Optional spells (some document) (some a)

/-- A value that may be missing is read where there is a document, and is none where there is not.
It has to be told from `null` (`hnull`), or one document would stand for two values. -/
theorem optional_iff {value : Conversion α} {spells : Json → α → Prop}
    (hvalue : ∀ j x, value j = .ok x ↔ spells j x) (hnull : ∀ x, ¬spells .null x)
    {found : Option Json} {a : Option α} :
    Optional spells found a ↔
      (∃ j, found = some j ∧ toOption value j = .ok a) ∨ (found = none ∧ a = none) := by
  constructor
  · intro h
    cases h with
    | absent => exact Or.inr ⟨rfl, rfl⟩
    | null => exact Or.inl ⟨_, rfl, rfl⟩
    | value h =>
      refine Or.inl ⟨_, rfl, toOption_eq_ok_iff.mpr (Or.inr ⟨?_, _, (hvalue _ _).mpr h, rfl⟩)⟩
      rintro rfl
      exact hnull _ h
  · rintro (⟨j, rfl, hread⟩ | ⟨rfl, rfl⟩)
    · obtain ⟨rfl, rfl⟩ | ⟨-, x, hx, rfl⟩ := toOption_eq_ok_iff.mp hread
      · exact .null
      · exact .value ((hvalue _ _).mp hx)
    · exact .absent

/-! ### Records -/

/-- The form of a record of so many fields: an object, or an array that has no more items. An object
may have members of other names, which no field reads. -/
inductive IsRecord (fields : Nat) : Json → Prop where
  | object (members : List (String × Json)) : IsRecord fields (.object members)
  | array (items : List Json) (h : items.length ≤ fields) : IsRecord fields (.array items)

/-- The document of a field of a record: in an object the member of its `name`, in an array the item
at its `index`. -/
def field? (document : Json) (index : Nat) (name : String) : Option Json :=
  match document with
  | .object members => member? name members
  | .array items => items[index]?
  | _ => none

/-- Where the fields of a record come from, by the way in which the document is written. There is
one source for each object or array, and none for any other document. -/
inductive FieldSource.Of (shape : RecordShape) : FieldSource → Json → Prop where
  | members (members : List (String × Json)) : Of shape (.members members) (.object members)
  | items (items : List Json) : Of shape (.items shape items) (.array items)

namespace Fields

/-- A function is applied to fields that were read, and what was not read stays the fault that it
is. -/
theorem map_eq_ok_iff {f : α → β} {fields : Fields α} {b : β} :
    f <$> fields = .ok b ↔ ∃ a, fields = .ok a ∧ f a = b := by
  cases fields <;> simp [Functor.map, Fields.map]

/-- Two groups of fields are read if each of them is. If both are at fault, the earlier turn decides
which fault is reported, but here only success counts. -/
theorem seq_eq_ok_iff {f : Fields (α → β)} {fields : Fields α} {b : β} :
    f <*> fields = .ok b ↔ ∃ g, f = .ok g ∧ ∃ a, fields = .ok a ∧ g a = b := by
  cases f with
  | ok g => cases fields <;> simp [Seq.seq, Fields.both]
  | fault turn error =>
    cases fields with
    | ok a => simp [Seq.seq, Fields.both]
    | fault other later =>
      simp only [Seq.seq, Fields.both]
      -- Of two faults one is reported, so there is no value in either case.
      split <;> simp

/-- A record is read if its fields are; `result` forgets the turn of a fault. -/
theorem result_eq_ok_iff {fields : Fields α} {a : α} :
    fields.result = .ok a ↔ fields = .ok a := by
  cases fields <;> simp [result]

end Fields

/-- A record is read by `toRecord` from a document of its form if its fields are, wherever they come
from. The condition `P` on the fields is stated of the document, and `h` says that every source
comes to it. -/
theorem toRecord_eq_ok_iff {shape : RecordShape} {fields : FieldSource → Fields α}
    {document : Json} {a : α} {P : Prop}
    (h : ∀ source, FieldSource.Of shape source document → (fields source = .ok a ↔ P)) :
    toRecord shape fields document = .ok a ↔ IsRecord shape.fields document ∧ P := by
  cases document with
  | object members =>
    rw [toRecord, Fields.result_eq_ok_iff, h _ (.members members)]
    exact (and_iff_right (.object members)).symm
  | array items =>
    -- An array is measured only after its fields have been read.
    rw [← h _ (.items items), toRecord, bind_eq_ok_iff]
    constructor
    · rintro ⟨a', hread, hlength⟩
      split at hlength
      · cases hlength
      · next hfits =>
        cases hlength
        exact ⟨.array items (Nat.not_lt.mp hfits), Fields.result_eq_ok_iff.mp hread⟩
    · rintro ⟨⟨⟩, hread⟩
      next hfits =>
      exact ⟨a, Fields.result_eq_ok_iff.mpr hread, if_neg (Nat.not_lt.mpr hfits)⟩
  | null | bool | number | string => exact iff_of_false nofun fun h => nomatch h.1

namespace FieldSource

variable {shape : RecordShape} {source : FieldSource} {document : Json} {index : Nat}
  {name : String} {value : Conversion α}

/-- A field is read from its document, or has the value for a record without it: `absent` for an
object and `short` for an array. -/
theorem field_eq_ok_iff (h : Of shape source document) {absent short : Option α} {a : α} :
    source.field index name value absent short = .ok a ↔
      (∃ j, document.field? index name = some j ∧ value j = .ok a) ∨
        (document.field? index name = none ∧
          (if document.isObject then absent else short) = some a) := by
  cases h with
  | members members =>
    simp only [field, Json.field?, Json.isObject]
    cases member? name members with
    | some j => cases hread : value j <;> simp [hread]
    | none => cases absent <;> simp
  | items items =>
    simp only [field, Json.field?, Json.isObject]
    cases items[index]? with
    | some j => cases hread : value j <;> simp [hread]
    | none => cases short <;> simp

/-- A field that has to be there is read from its document, by name or by place. -/
theorem required_eq_ok_iff (h : Of shape source document) {a : α} :
    source.required index name value = .ok a ↔
      ∃ j, document.field? index name = some j ∧ value j = .ok a := by
  rw [required, field_eq_ok_iff h, ite_self]
  exact or_iff_left nofun

section

variable {spells : Json → α → Prop} (h : Of shape source document)
  (hvalue : ∀ j x, value j = .ok x ↔ spells j x) (hnull : ∀ x, ¬spells .null x)

include h hvalue hnull

/-- A field that may be missing everywhere is none, or read from its document. It is one at the end
of an array, which may stop before it. -/
theorem trailing_eq_ok_iff {a : Option α} :
    source.trailing index name value = .ok a ↔
      Optional spells (document.field? index name) a := by
  rw [trailing, field_eq_ok_iff h, ite_self, optional_iff hvalue hnull, Option.some.injEq,
    eq_comm (a := none)]

/-- A field that an object may lack is none there, or read from its document. An array must have an
item for it, even if that is `null`. -/
theorem optional_eq_ok_iff {a : Option α} :
    source.optional index name value = .ok a ↔
      Optional spells (document.field? index name) a ∧
        (document.isObject = true ∨ (document.field? index name).isSome = true) := by
  rw [optional, field_eq_ok_iff h, Option.ite_none_right_eq_some, optional_iff hvalue hnull,
    Option.some.injEq, eq_comm (a := none)]
  cases document.field? index name <;> simp [and_comm]

end

end FieldSource

end LspSession.Json
