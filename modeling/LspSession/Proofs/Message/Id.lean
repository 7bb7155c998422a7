import LspSession.Proofs.Message.Grammar

/-!
# `LspSession.Proofs.Message.Id`: both readers of ids read the same ids

An id is read in two ways. `RequestId.ofMember` reads the id of a message and names what is wrong
with it. `RequestId.ofJson` reads an id as a value of its type, and such a value may be written in
several ways: it tries to read an integer and then a text (`Json.firstOf`). If one of the two read a
document that the other does not, a response could not be matched with its request.

`RequestId.readers_agree` says that they read the same documents, as the same ids, and which
documents these are. An id is also read from its own text, so two ids never have the same text, not
even an integer and the string of its digits.
-/

set_option autoImplicit false

namespace LspSession

namespace Json

variable {α : Type}

/-- Reads a value that may be written in several ways. The first of them that fits counts, and if
none does the fault names the `choice` and no single way. -/
def firstOf (choice : String) (ways : List (Conversion α)) : Conversion α := fun document =>
  match ways.findSome? fun way => (way document).toOption with
  | some a => .ok a
  | none => .error (.noAlternative choice)

/-- A way that fits is taken, and one that does not is passed over, with whatever fault it had. -/
theorem firstOf_cons (choice : String) (way : Conversion α) (ways : List (Conversion α))
    (document : Json) :
    firstOf choice (way :: ways) document =
      match way document with
      | .ok a => .ok a
      | .error _ => firstOf choice ways document := by
  rw [firstOf, List.findSome?_cons]
  cases way document <;> rfl

/-- A number is read as an integer of 64 bits if it is one: `toInt64` and `Number.toInt64?` differ
only in that the first has a fault to report. -/
theorem toOption_toInt64 (n : Number) : (toInt64 (.number n)).toOption = n.toInt64? := by
  cases n with
  | float x => rfl
  | integer i =>
    simp only [toInt64, toIntBetween, Number.toInt64?]
    split <;> rfl

end Json

namespace RequestId

/-- The ways in which an id may be written: as an integer of 64 bits, or as a text. They exclude
each other, but the order is that of the type. -/
def ways : List (Json.Conversion RequestId) :=
  [fun document => (Json.toInt64 document).map integer,
    fun document => (Json.toText document).map string]

/-- Reading an id by `ofJson` is trying the two ways in order. The reader looks at the document
once, and this says that it comes to the same. -/
theorem ofJson_eq_firstOf (document : Json) :
    ofJson document = Json.firstOf "RequestId" ways document := by
  simp only [ways, Json.firstOf_cons]
  cases document with
  | null | bool | string | array | object => rfl
  | number n =>
    -- Only a number can be read in either way by looking further than at its kind.
    have hread := Json.toOption_toInt64 n
    rw [ofJson, ← hread]
    cases Json.toInt64 (.number n) <;> rfl

/-- An id is read by `ofJson` as a value from its own document and from no other. -/
theorem ofJson_eq_ok_iff {document : Json} {id : RequestId} :
    ofJson document = .ok id ↔ document = id.toJson := by
  rw [ofJson_eq_firstOf]
  simp only [ways, Json.firstOf_cons]
  constructor
  · intro h
    split at h
    · next i hi =>
      obtain ⟨n, hn, rfl⟩ := map_eq_ok_iff.mp hi
      cases h
      exact Json.toInt64_eq_ok_iff.mp hn
    · split at h
      · next s hs =>
        obtain ⟨text, htext, rfl⟩ := map_eq_ok_iff.mp hs
        cases h
        exact Json.toText_eq_ok_iff.mp htext
      · cases h
  · rintro rfl
    cases id with
    | integer i => rw [toJson, Json.toInt64_eq_ok_iff.mpr rfl]; rfl
    | string s => rfl

/-- The document of an id is read from its compact text, since its number, if it is one, is an
integer of 64 bits. -/
theorem ofBytes_render (id : RequestId) :
    Json.ofBytes (Utf8.encode id.toJson.render) = .ok id.toJson := by
  have hintegral : id.toJson.isIntegral Json.depthLimit = true := by
    cases id with
    | string s => rfl
    | integer i =>
      have hlow : -(Nat.pow 2 63 : Int) ≤ i.toInt := i.le_toInt
      have hhigh : i.toInt < (Nat.pow 2 63 : Int) := i.toInt_lt
      have hfits : -(Nat.pow 2 63 : Int) ≤ i.toInt ∧ i.toInt < (Nat.pow 2 64 : Nat) :=
        ⟨hlow, hhigh.trans (by decide)⟩
      exact decide_eq_true hfits
  have hordered : id.toJson.isOrdered = true := by cases id <;> rfl
  exact Json.ofBytes_render_of_isOrdered hintegral hordered

/-- Ids of which one text can be read are the same. A string is written in quotes, so its digits are
never those of an integer. -/
theorem render_toJson_inj {id other : RequestId} :
    id.toJson.render = other.toJson.render ↔ id = other := by
  constructor
  · intro h
    have hdocument : id.toJson = other.toJson := by
      have hread := id.ofBytes_render
      rw [h, other.ofBytes_render, Except.ok.injEq] at hread
      exact hread.symm
    -- An id is read back from its document, so equal documents are those of one id.
    have hsame := ofMember_eq_ok_iff.mpr hdocument
    rw [id.ofMember_toJson, Except.ok.injEq] at hsame
    exact hsame
  · rintro rfl
    rfl

/-- Both readers of ids, `ofMember` and `ofJson`, read the same documents, each as the same id. The
second of them tries the two ways in which an id may be written. The documents are the integers of
64 bits and the strings, and no others: no numbers with a fraction, no greater integers, and nothing
that is neither a number nor a string. An id is read by both from its own document, and that
document from its text. The text tells which id it is, so an integer and the string of its digits
are never taken for each other. -/
theorem readers_agree :
    (∀ document, ofJson document = Json.firstOf "RequestId" ways document) ∧
      (∀ document id, ofMember document = .ok id ↔ ofJson document = .ok id) ∧
      (∀ document : Json, (∃ id, ofMember document = .ok id) ↔ document.IsId) ∧
      (∀ id : RequestId, ofMember id.toJson = .ok id ∧ ofJson id.toJson = .ok id ∧
        Json.ofBytes (Utf8.encode id.toJson.render) = .ok id.toJson) ∧
      ∀ id other : RequestId, id.toJson.render = other.toJson.render ↔ id = other := by
  refine ⟨ofJson_eq_firstOf, fun document id => ?_, fun document => ?_, fun id => ?_,
    fun id other => render_toJson_inj⟩
  · rw [ofMember_eq_ok_iff, ofJson_eq_ok_iff]
  · rw [Json.isId_iff]
    exact exists_congr fun id => ofMember_eq_ok_iff
  · exact ⟨id.ofMember_toJson, ofJson_eq_ok_iff.mpr rfl, id.ofBytes_render⟩

/-- A zero with a sign and an integer with a fraction are numbers of another kind, and the integers
of 64 bits end before `2 ^ 63`. -/
example : ["-0", "1.0", "9223372036854775808"].map (fun text =>
    ((Json.ofBytes (Utf8.encode text)).toOption.map fun document =>
      (ofMember document).toOption.isNone && (ofJson document).toOption.isNone)) =
    [some true, some true, some true] := by
  decide +kernel

end RequestId

end LspSession
