import LspSession.Message.Classify
import LspSession.Proofs.Json.Members
import LspSession.Proofs.Json.Record
import LspSession.Proofs.Json.RoundTrip

/-!
# `LspSession.Proofs.Message.RoundTrip`: a message is read from its own document

What a document is as a message is decided by the members that are there: a `method` makes it a
call, an `id` makes a call a request, and a document with an `id` alone is a response. The document
of a message has just the members of its kind, so it is read as the message that it was made of
(`classify_wire`). One thing is lost on the way: parameters of `null`, and failure data of `null`,
count as absent, while a result of `null` is a result.

A message is written with its members in a fixed order, and a document that has been read has them
in ascending order. A reader looks for members by their names, so it makes no difference to it.
-/

set_option autoImplicit false

namespace LspSession

/-! ### Messages as they are received -/

/-- A value where `null` counts as none, which is how parameters, failures and failure data are
read. -/
def Json.present (value : Option Json) : Option Json := value.filter fun j => !j.isNull

/-- The failure as the other side reads it: data of `null` is absent, and all else stays. -/
def Failure.received (f : Failure) : Failure := { f with data := Json.present f.data }

/-- The message as the other side reads it: parameters and failure data of `null` are absent. A
result of `null` is a result, so it stays. -/
def Message.received : Message → Message
  | .request r => .request { r with params := Json.present r.params }
  | .notification n => .notification { n with params := Json.present n.params }
  | .response r => .response { r with payload := r.payload.mapError Failure.received }

/-- The documents that a message carries as they are: its parameters, its result, or the data of its
failure. The members around them are made by `Message.wire`. -/
def Message.documents : Message → List Json
  | .request r => r.params.toList
  | .notification n => n.params.toList
  | .response ⟨_, .ok result⟩ => [result]
  | .response ⟨_, .error failure⟩ => failure.data.toList

/-- Whether a message is a request, a notification or a response, without what it says. -/
inductive Message.Kind where
  | request
  | notification
  | response
  deriving DecidableEq, Repr

/-- The kind of a message, which `classify` decides by the members that are there. -/
def Message.kind : Message → Message.Kind
  | .request _ => .request
  | .notification _ => .notification
  | .response _ => .response

/-! ### Single members -/

/-- A number is an integer of 64 bits exactly if it is written as one: `toInt64?` refuses a number
with a fraction and one beyond the bounds. -/
theorem Number.toInt64?_eq_some_iff {n : Number} {i : Int64} :
    n.toInt64? = some i ↔ n = .integer i.toInt := by
  have hrange : -(Nat.pow 2 63 : Int) ≤ i.toInt ∧ i.toInt < (Nat.pow 2 63 : Int) :=
    ⟨i.le_toInt, i.toInt_lt⟩
  constructor
  · intro h
    cases n with
    | float x => cases h
    | integer j =>
      obtain ⟨hfits, hi⟩ := Option.ite_none_right_eq_some.mp h
      cases hi
      rw [Int64.toInt_ofInt_of_le hfits.1 hfits.2]
  · rintro rfl
    rw [toInt64?, if_pos hrange, Int64.ofInt_toInt]

/-- An id is read by `ofMember` from its own document, an integer as an integer and a string as a
string. -/
theorem RequestId.ofMember_toJson (id : RequestId) : ofMember id.toJson = .ok id := by
  cases id with
  | string s => rfl
  | integer i => rw [toJson, ofMember, Number.toInt64?_eq_some_iff.mpr rfl]

/-- The document of an id has no members to sort, so `Json.sorted` leaves it alone. -/
theorem RequestId.sorted_toJson (id : RequestId) : id.toJson.sorted = id.toJson := by
  cases id <;> rfl

/-- A failure is read by `Failure.ofJson` from the members of its own document, found by their
names. In which order they stand, and what other members there are, does not matter. -/
theorem Failure.ofJson_object {members : List (String × Json)} (f : Failure)
    (hcode : Json.member? "code" members = some (.number (.integer f.code.toInt)))
    (hmessage : Json.member? "message" members = some (.string f.message))
    (hdata : Json.member? "data" members = f.data) :
    ofJson (.object members) = .ok f.received := by
  have hread (source : Json.FieldSource) : source = .members members →
      source.trailing 2 "data" Json.toAny = .ok (Json.present f.data) := by
    rintro rfl
    simp only [Json.FieldSource.trailing, Json.FieldSource.field, hdata]
    cases f.data with
    | none => rfl
    | some data => cases data <;> rfl
  have hnumber : Json.toInt32 (.number (.integer f.code.toInt)) = .ok f.code :=
    Json.toInt32_eq_ok_iff.mpr rfl
  simp only [ofJson, Json.toRecord, hread _ rfl, Json.FieldSource.required,
    Json.FieldSource.field, hcode, hmessage, hnumber, Json.toText_string]
  rfl

/-- The document of a failure is read as the failure, with its members in the order in which
`Failure.wire` writes them. -/
theorem Failure.ofJson_wire (f : Failure) : ofJson f.wire = .ok f.received := by
  refine ofJson_object f rfl rfl ?_
  cases f.data <;> rfl

/-- The document of a failure is read as the failure when its members are in order. Its data has to
be in order itself, or sorting would change it. -/
theorem Failure.ofJson_sorted_wire {f : Failure} (h : ∀ j ∈ f.data, j.isOrdered = true) :
    ofJson f.wire.sorted = .ok f.received := by
  obtain ⟨code, message, data⟩ := f
  let members : List (String × Json) :=
    [("code", .number (.integer code.toInt)), ("message", .string message)]
  have hnames : ((members ++ optionalMember "data" data).map Prod.fst).Nodup := by
    cases data <;> simp [members, optionalMember]
  -- Each member is found by its name in the sorted list as well.
  refine ofJson_object _ ?_ ?_ ?_ <;> refine (Json.member?_sorted hnames _).trans ?_
  · rfl
  · rfl
  · cases data with
    | none => rfl
    | some j => exact congrArg some (Json.sorted_of_isOrdered j (h j rfl))

namespace Message

/-! ### Calls and responses by their members -/

/-- An object with a method is a call, and a request if it has an id. What its other members are
does not matter to `classify`, the parameters apart. -/
theorem classify_call {members : List (String × Json)} {id : Option RequestId} {method : String}
    (hid : Json.member? "id" members = id.map RequestId.toJson)
    (hmethod : Json.member? "method" members = some (.string method)) :
    classify (.object members) = .ok (ofCall id method members) := by
  have hread : readId? members = .ok id := by
    rw [readId?, hid]
    cases id with
    | none => rfl
    | some id =>
      rw [Option.map_some]
      exact congrArg (Except.map some) id.ofMember_toJson
  simp only [classify, ofMembers, hread, hmethod]

/-- An object with an id and no method is a response, and what it answers is up to `ofResponse`. -/
theorem classify_response {members : List (String × Json)} {id : RequestId}
    (hid : Json.member? "id" members = some id.toJson)
    (hmethod : Json.member? "method" members = none) :
    classify (.object members) = ofResponse id members := by
  have hread : readId? members = .ok (some id) := by
    rw [readId?, hid]
    exact congrArg (Except.map some) id.ofMember_toJson
  simp only [classify, ofMembers, hread, hmethod]

/-- The members of an object, found by their names, are those of a message. The document of a
failure counts by how it is read, since sorting may have changed it. -/
def ShownBy (members : List (String × Json)) : Message → Prop
  | .request r => Json.member? "id" members = some r.id.toJson ∧
      Json.member? "method" members = some (.string r.method) ∧
      Json.member? "params" members = r.params
  | .notification n => Json.member? "id" members = none ∧
      Json.member? "method" members = some (.string n.method) ∧
      Json.member? "params" members = n.params
  | .response ⟨id, .ok result⟩ => Json.member? "id" members = some id.toJson ∧
      Json.member? "method" members = none ∧ Json.member? "result" members = some result ∧
      Json.member? "error" members = none
  | .response ⟨id, .error failure⟩ => Json.member? "id" members = some id.toJson ∧
      Json.member? "method" members = none ∧ Json.member? "result" members = none ∧
      ∃ document, Json.member? "error" members = some document ∧ document.isNull = false ∧
        Failure.ofJson document = .ok failure.received

/-- An object that shows a message is read as that message, as it is `received`. -/
theorem ShownBy.classify_eq {members : List (String × Json)} {m : Message}
    (h : ShownBy members m) : classify (.object members) = .ok m.received := by
  match m, h with
  | .request r, ⟨hid, hmethod, hparams⟩ =>
    have hknown : Json.member? "id" members = (some r.id).map RequestId.toJson := hid
    rw [classify_call hknown hmethod, ofCall, presentMember?, hparams]
    rfl
  | .notification n, ⟨hid, hmethod, hparams⟩ =>
    have hnone : Json.member? "id" members = (none : Option RequestId).map RequestId.toJson := hid
    rw [classify_call hnone hmethod, ofCall, presentMember?, hparams]
    rfl
  | .response ⟨id, .ok result⟩, ⟨hid, hmethod, hresult, herror⟩ =>
    rw [classify_response hid hmethod, ofResponse, presentMember?, hresult, herror]
    rfl
  | .response ⟨id, .error failure⟩, ⟨hid, hmethod, hresult, document, herror, hpresent, hread⟩ =>
    have hfound : (some document).filter (fun j => !j.isNull) = some document := by
      rw [Option.filter_some, hpresent]
      rfl
    simp only [classify_response hid hmethod, ofResponse, presentMember?, hresult, herror, hfound,
      hread]
    rfl

/-! ### The document of a message -/

/-- The document that `Message.wire` writes for a message shows it. -/
theorem shownBy_wire (m : Message) : ∃ members, m.wire = .object members ∧ ShownBy members m := by
  match m with
  | .request ⟨id, method, params⟩ =>
    refine ⟨_, rfl, rfl, rfl, ?_⟩
    cases params <;> rfl
  | .notification ⟨method, params⟩ =>
    refine ⟨_, rfl, ?_, rfl, ?_⟩ <;> cases params <;> rfl
  | .response ⟨id, .ok result⟩ => exact ⟨_, rfl, rfl, rfl, rfl, rfl⟩
  | .response ⟨id, .error failure⟩ =>
    exact ⟨_, rfl, rfl, rfl, rfl, _, rfl, rfl, Failure.ofJson_wire failure⟩

/-- The document of a message shows it when its members are in order. No two members that a message
has by itself have one name, so sorting moves them and no more. -/
theorem shownBy_sorted_wire {m : Message} (h : ∀ j ∈ m.documents, j.isOrdered = true) :
    ∃ members, m.wire.sorted = .object members ∧ ShownBy members m := by
  -- Sorting changes no value that is in order itself, and the values of a message are.
  have hparams {params : Option Json} (hordered : ∀ j ∈ params, j.isOrdered = true) :
      params.map Json.sorted = params := by
    cases params with
    | none => rfl
    | some j => exact congrArg some (Json.sorted_of_isOrdered j (hordered j rfl))
  match m, h with
  | .request ⟨id, method, params⟩, h =>
    have hnames : (([versionMember, ("id", id.toJson), ("method", Json.string method)] ++
        optionalMember "params" params).map Prod.fst).Nodup := by
      cases params <;> simp [versionMember, optionalMember]
    refine ⟨_, rfl, ?_, ?_, ?_⟩ <;> refine (Json.member?_sorted hnames _).trans ?_
    · exact congrArg some id.sorted_toJson
    · rfl
    · refine Eq.trans ?_ (hparams fun j hj => h j (Option.mem_toList.mpr hj))
      cases params <;> rfl
  | .notification ⟨method, params⟩, h =>
    have hnames : (([versionMember, ("method", Json.string method)] ++
        optionalMember "params" params).map Prod.fst).Nodup := by
      cases params <;> simp [versionMember, optionalMember]
    refine ⟨_, rfl, ?_, ?_, ?_⟩ <;> refine (Json.member?_sorted hnames _).trans ?_
    · cases params <;> rfl
    · rfl
    · refine Eq.trans ?_ (hparams fun j hj => h j (Option.mem_toList.mpr hj))
      cases params <;> rfl
  | .response ⟨id, .ok result⟩, h =>
    have hnames : ([versionMember, ("id", id.toJson), ("result", result)].map Prod.fst).Nodup := by
      simp [versionMember]
    refine ⟨_, rfl, ?_, ?_, ?_, ?_⟩ <;> refine (Json.member?_sorted hnames _).trans ?_
    · exact congrArg some id.sorted_toJson
    · rfl
    · exact congrArg some (Json.sorted_of_isOrdered result (h result List.mem_cons_self))
    · rfl
  | .response ⟨id, .error failure⟩, h =>
    have hnames :
        ([versionMember, ("id", id.toJson), ("error", failure.wire)].map Prod.fst).Nodup := by
      simp [versionMember]
    have hread : Failure.ofJson failure.wire.sorted = .ok failure.received :=
      Failure.ofJson_sorted_wire fun j hj => h j (Option.mem_toList.mpr hj)
    -- The failure is a document of its own, which is sorted as well.
    refine ⟨_, rfl, ?_, ?_, ?_, failure.wire.sorted, ?_, rfl, hread⟩ <;>
      refine (Json.member?_sorted hnames _).trans ?_
    · exact congrArg some id.sorted_toJson
    · rfl
    · rfl
    · rfl

/-- The document of a message is read by `classify` as that message, of the same kind and with the
same fields, but that parameters and failure data of `null` are absent (`received`). So it is when
the document lists its members in the order in which they are written, and when it lists them in
ascending order with the documents that it carries in order. The three ways to make up a response
give responses that are read with their own ids and payloads. -/
theorem classify_wire (m : Message) :
    classify m.wire = .ok m.received ∧
      ((∀ j ∈ m.documents, j.isOrdered = true) → classify m.wire.sorted = .ok m.received) ∧
      m.received.kind = m.kind ∧
      (∀ id result, classify (Response.success id result).wire =
        .ok (.response ⟨id, .ok result⟩)) ∧
      (∀ id code message data, classify (Response.failed id code message data).wire =
        .ok (.response ⟨id, .error ⟨code, message, Json.present data⟩⟩)) ∧
      ∀ id method, classify (Response.methodNotFound id method).wire =
        .ok (.response ⟨id, .error ⟨-32601, "Method not found: " ++ method, none⟩⟩) := by
  have hwire (m : Message) : classify m.wire = .ok m.received := by
    obtain ⟨members, hmembers, hshown⟩ := shownBy_wire m
    rw [hmembers]
    exact hshown.classify_eq
  refine ⟨hwire m, fun h => ?_, ?_, fun id result => hwire (.response (.success id result)),
    fun id code message data => hwire (.response (.failed id code message data)),
    fun id method => hwire (.response (.methodNotFound id method))⟩
  · obtain ⟨members, hmembers, hshown⟩ := shownBy_sorted_wire h
    rw [hmembers]
    exact hshown.classify_eq
  · cases m <;> rfl

end Message

end LspSession
