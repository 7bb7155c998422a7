import LspSession.Client.Receive
import LspSession.Proofs.Message.RoundTrip

/-!
# `LspSession.Proofs.Message.Grammar`: which documents are messages

`Message.classify` looks at five members, and at some of them only when others are there or absent.
Two of the five may be absent by being `null`, one has a meaning when it is `null`, and for the
other two `null` is a fault. `Spells` says member by member what the object of each kind of message
is, and `Grammatical` says it of an object without regard to the message.

`classify_grammar` says that these are the documents that are classified, as the messages that they
spell. It also says what the result is made of: two objects that agree in the members that count
have the same result, be it a message or a fault.
-/

set_option autoImplicit false

namespace LspSession

/-! ### Ids -/

/-- The documents that are ids: integers of 64 bits with a sign, and strings. A number that is
written with a fraction is no id, even if its value is an integer. -/
inductive Json.IsId : Json → Prop where
  | integer (i : Int) (low : -2 ^ 63 ≤ i) (high : i < 2 ^ 63) : IsId (.number (.integer i))
  | string (s : String) : IsId (.string s)

/-- An id is read by `ofMember` from its own document and from no other. -/
theorem RequestId.ofMember_eq_ok_iff {document : Json} {id : RequestId} :
    ofMember document = .ok id ↔ document = id.toJson := by
  constructor
  · intro h
    unfold ofMember at h
    split at h
    · next n =>
      split at h
      · next i hi =>
        cases h
        rw [Number.toInt64?_eq_some_iff.mp hi]
        rfl
      · cases h
    · cases h
      rfl
    · cases h
  · rintro rfl
    exact id.ofMember_toJson

/-- The documents of the ids are those that are ids: `Json.IsId` is the range of `RequestId.toJson`.
-/
theorem Json.isId_iff {document : Json} :
    document.IsId ↔ ∃ id : RequestId, document = id.toJson := by
  constructor
  · intro h
    cases h with
    | integer i low high =>
      refine ⟨.integer (.ofInt i), ?_⟩
      rw [RequestId.toJson, Int64.toInt_ofInt_of_le low high]
    | string s => exact ⟨.string s, rfl⟩
  · rintro ⟨id, rfl⟩
    cases id with
    | integer i => exact .integer _ i.le_toInt i.toInt_lt
    | string s => exact .string s

/-! ### Values that may be `null` -/

/-- A value that is not there is none, or `null`. The members of a message are of two kinds, and
`present` is how the first kind is looked at. -/
theorem Json.present_eq_none_iff {value : Option Json} :
    present value = none ↔ value = none ∨ value = some .null := by
  cases value with
  | none => exact iff_of_true rfl (Or.inl rfl)
  | some j => cases j <;> simp [present, isNull]

/-- A value that is there is not `null`, and `present` leaves it as it is. -/
theorem Json.present_eq_some_iff {value : Option Json} {j : Json} :
    present value = some j ↔ value = some j ∧ j ≠ .null := by
  have hnull : (!j.isNull) = true ↔ j ≠ .null := by cases j <;> simp [isNull]
  rw [present, Option.filter_eq_some_iff, hnull]

namespace Message

/-! ### Objects of messages -/

/-- The members of an object, found by their names, are those of a message. Members of other names
have no say, and neither has the order in which the members stand. -/
inductive Spells (members : List (String × Json)) : Message → Prop where
  /-- A request has an id and a method. Parameters of `null` are absent. -/
  | request {id : RequestId} {method : String}
      (hid : Json.member? "id" members = some id.toJson)
      (hmethod : Json.member? "method" members = some (.string method)) :
    Spells members (.request ⟨id, method, Json.present (Json.member? "params" members)⟩)
  /-- A notification has a method and no id. -/
  | notification {method : String} (hid : Json.member? "id" members = none)
      (hmethod : Json.member? "method" members = some (.string method)) :
    Spells members (.notification ⟨method, Json.present (Json.member? "params" members)⟩)
  /-- A response with a result has an id and no method. A failure of `null` is absent. -/
  | result {id : RequestId} {result : Json}
      (hid : Json.member? "id" members = some id.toJson)
      (hmethod : Json.member? "method" members = none)
      (hresult : Json.member? "result" members = some result)
      (herror : Json.member? "error" members = none ∨ Json.member? "error" members = some .null) :
    Spells members (.response ⟨id, .ok result⟩)
  /-- A response with a failure has an id and no method, and not even a result of `null`. -/
  | failure {id : RequestId} {failure : Failure} {document : Json}
      (hid : Json.member? "id" members = some id.toJson)
      (hmethod : Json.member? "method" members = none)
      (hresult : Json.member? "result" members = none)
      (herror : Json.member? "error" members = some document) (hpresent : document ≠ .null)
      (hread : Failure.ofJson document = .ok failure) :
    Spells members (.response ⟨id, .error failure⟩)

/-- The members of an object, found by their names, are those of some message. It is said here
without the message, so that one can see which objects have none. -/
structure Grammatical (members : List (String × Json)) : Prop where
  /-- The id is one, if it is there. -/
  id : ∀ document, Json.member? "id" members = some document → document.IsId
  /-- There is a method, which is a string; or there is none, but an id, and either a result or a
  failure. -/
  shape : (∃ method, Json.member? "method" members = some (.string method)) ∨
    Json.member? "method" members = none ∧ (∃ document, Json.member? "id" members = some document) ∧
      Xor (∃ result, Json.member? "result" members = some result)
        (∃ document, Json.member? "error" members = some document ∧ document ≠ .null)
  /-- The failure of a response can be read, if it is there. -/
  failure : ∀ document, Json.member? "method" members = none →
    Json.member? "error" members = some document → document ≠ .null →
      ∃ failure, Failure.ofJson document = .ok failure

/-- Two objects agree in the members that a message is made of. Which these are depends on the
others: the result counts only where there is an id and no method. -/
structure Agree (members other : List (String × Json)) : Prop where
  id : Json.member? "id" members = Json.member? "id" other
  method : Json.member? "method" members = Json.member? "method" other
  /-- The parameters count in a call. -/
  params : Json.member? "method" members ≠ none →
    Json.member? "params" members = Json.member? "params" other
  /-- The result and the failure count in a response. -/
  result : Json.member? "method" members = none → Json.member? "id" members ≠ none →
    Json.member? "result" members = Json.member? "result" other
  error : Json.member? "method" members = none → Json.member? "id" members ≠ none →
    Json.member? "error" members = Json.member? "error" other

/-! ### Reading the members -/

/-- The id of a message is read by `readId?` if it is one, or is not there. An id of `null` is a
fault, not an absent id. -/
theorem readId?_eq_ok_iff {members : List (String × Json)} {id : Option RequestId} :
    readId? members = .ok id ↔ Json.member? "id" members = id.map RequestId.toJson := by
  unfold readId?
  cases Json.member? "id" members with
  | none => cases id <;> simp
  | some document =>
    simp only
    constructor
    · intro h
      cases hread : RequestId.ofMember document with
      | error fault =>
        rw [hread] at h
        cases h
      | ok found =>
        rw [hread] at h
        cases h
        exact congrArg some (RequestId.ofMember_eq_ok_iff.mp hread)
    · intro h
      obtain ⟨found, rfl, rfl⟩ := Option.map_eq_some_iff.mp h.symm
      rw [found.ofMember_toJson]
      rfl

/-- The members of an object that is read as a response spell it. The reader has looked at the id
and found no method before. -/
theorem spells_of_ofResponse {id : RequestId} {members : List (String × Json)} {m : Message}
    (hid : Json.member? "id" members = some id.toJson)
    (hmethod : Json.member? "method" members = none) (h : ofResponse id members = .ok m) :
    Spells members m := by
  unfold ofResponse at h
  -- Of the four ways in which a result and a failure can be there, two are faults.
  split at h
  · next result hresult herror =>
    cases h
    exact .result hid hmethod hresult (Json.present_eq_none_iff.mp herror)
  · next document hresult herror =>
    split at h
    · next failure hread =>
      cases h
      obtain ⟨hfound, hpresent⟩ := Json.present_eq_some_iff.mp herror
      exact .failure hid hmethod hresult hfound hpresent hread
    · cases h
  · cases h
  · cases h

/-- The members of an object that is read as a message spell it. The cases are those of `ofMembers`,
in the order in which it looks at the members. -/
theorem spells_of_ofMembers {members : List (String × Json)} {m : Message}
    (h : ofMembers members = .ok m) : Spells members m := by
  unfold ofMembers at h
  split at h
  · cases h
  · next found hread =>
    have hid := readId?_eq_ok_iff.mp hread
    -- A method makes it a call, and only without one does a lone id matter.
    cases hmethod : Json.member? "method" members with
    | none =>
      simp only [hmethod] at h
      cases found with
      | none => cases h
      | some id => exact spells_of_ofResponse hid hmethod h
    | some document =>
      simp only [hmethod] at h
      cases document with
      | string method =>
        cases h
        cases found with
        | some id => exact .request hid hmethod
        | none => exact .notification hid hmethod
      | null | bool | number | array | object => cases h

/-- An object that spells a message is read as that message. So no object spells two messages, since
`ofMembers` gives one. -/
theorem Spells.ofMembers_eq {members : List (String × Json)} {m : Message}
    (h : Spells members m) : ofMembers members = .ok m := by
  cases h with
  | @request id method hid hmethod =>
    have hknown : Json.member? "id" members = (some id).map RequestId.toJson := hid
    exact classify_call hknown hmethod
  | notification hid hmethod =>
    have hnone : Json.member? "id" members = (none : Option RequestId).map RequestId.toJson := hid
    exact classify_call hnone hmethod
  | result hid hmethod hresult herror =>
    refine (classify_response hid hmethod).trans ?_
    have hnone := Json.present_eq_none_iff.mpr herror
    simp only [ofResponse, hresult, show presentMember? "error" members = none from hnone]
    rfl
  | failure hid hmethod hresult herror hpresent hread =>
    refine (classify_response hid hmethod).trans ?_
    have hsome := Json.present_eq_some_iff.mpr ⟨herror, hpresent⟩
    simp only [ofResponse, hresult, show presentMember? "error" members = some _ from hsome, hread]

/-- The documents that `classify` reads as a message are the objects that spell it. -/
theorem classify_eq_ok_iff {document : Json} {m : Message} :
    classify document = .ok m ↔ ∃ members, document = .object members ∧ Spells members m := by
  constructor
  · intro h
    cases document with
    | object members => exact ⟨members, rfl, spells_of_ofMembers h⟩
    | null | bool | number | string | array => cases h
  · rintro ⟨members, rfl, hspells⟩
    exact hspells.ofMembers_eq

/-- A result of `null` is a result, and a failure of `null` beside it is none. -/
example : classify (.object [("error", .null), ("id", .string "a"), ("result", .null)]) =
    .ok (.response ⟨.string "a", .ok .null⟩) := by
  rfl

/-- The members of a message are grammatical. Each case of `Spells` gives the id, the shape and the
failure that `Grammatical` asks for. -/
theorem Spells.grammatical {members : List (String × Json)} {m : Message} (h : Spells members m) :
    Grammatical members := by
  -- Where there is an id at all, it is the one that the message has.
  have hisId {id : RequestId} (hid : Json.member? "id" members = some id.toJson) :
      ∀ document, Json.member? "id" members = some document → document.IsId := by
    intro document hfound
    rw [hid] at hfound
    exact Json.isId_iff.mpr ⟨id, (Option.some.inj hfound).symm⟩
  cases h with
  | request hid hmethod =>
    refine ⟨hisId hid, Or.inl ⟨_, hmethod⟩, fun _ hnone => ?_⟩
    rw [hmethod] at hnone
    cases hnone
  | notification hid hmethod =>
    refine ⟨fun _ hfound => ?_, Or.inl ⟨_, hmethod⟩, fun _ hnone => ?_⟩
    · rw [hid] at hfound
      cases hfound
    · rw [hmethod] at hnone
      cases hnone
  | result hid hmethod hresult herror =>
    -- A failure of `null` beside the result is none, so the other alternative does not hold.
    have habsent : ∀ document, Json.member? "error" members = some document →
        ¬ document ≠ .null := by
      intro document hfound hpresent
      rcases herror with hnone | hnull
      · rw [hnone] at hfound
        cases hfound
      · rw [hnull] at hfound
        cases hfound
        exact hpresent rfl
    refine ⟨hisId hid, Or.inr ⟨hmethod, ⟨_, hid⟩, Or.inl ⟨⟨_, hresult⟩, ?_⟩⟩, ?_⟩
    · rintro ⟨document, hfound, hpresent⟩
      exact habsent document hfound hpresent
    · intro document _ hfound hpresent
      exact absurd hpresent (habsent document hfound)
  | failure hid hmethod hresult herror hpresent hread =>
    refine ⟨hisId hid, Or.inr ⟨hmethod, ⟨_, hid⟩, Or.inr ⟨⟨_, herror, hpresent⟩, ?_⟩⟩, ?_⟩
    · rintro ⟨result, hfound⟩
      rw [hresult] at hfound
      cases hfound
    · intro document _ hfound _
      rw [herror] at hfound
      cases hfound
      exact ⟨_, hread⟩

/-- Members that are grammatical are those of a message, which is found by looking at the method and
then at the id. -/
theorem Grammatical.exists_spells {members : List (String × Json)} (h : Grammatical members) :
    ∃ m, Spells members m := by
  obtain ⟨hid, hshape, hfailure⟩ := h
  rcases hshape with ⟨method, hmethod⟩ | ⟨hmethod, ⟨document, hmember⟩, houtcome⟩
  · -- A call is a request or a notification by its id alone.
    cases hmember : Json.member? "id" members with
    | none => exact ⟨_, .notification hmember hmethod⟩
    | some document =>
      obtain ⟨id, rfl⟩ := Json.isId_iff.mp (hid document hmember)
      exact ⟨_, .request hmember hmethod⟩
  · -- Whichever of the two alternatives holds, the other one is absent, as the message asks for.
    obtain ⟨id, rfl⟩ := Json.isId_iff.mp (hid document hmember)
    rcases houtcome with ⟨⟨result, hresult⟩, habsent⟩ | ⟨⟨document, herror, hpresent⟩, hnone⟩
    · refine ⟨_, .result hmember hmethod hresult (Json.present_eq_none_iff.mp ?_)⟩
      rw [Option.eq_none_iff_forall_ne_some]
      intro document hdocument
      exact habsent ⟨document, Json.present_eq_some_iff.mp hdocument⟩
    · obtain ⟨failure, hread⟩ := hfailure document hmethod herror hpresent
      have hresult : Json.member? "result" members = none :=
        Option.eq_none_iff_forall_ne_some.mpr fun result hfound => hnone ⟨result, hfound⟩
      exact ⟨_, .failure hmember hmethod hresult herror hpresent hread⟩

/-- Objects that agree in the members that count have the same result under `ofMembers`, be it a
message or a fault. -/
theorem Agree.ofMembers_eq {members other : List (String × Json)} (h : Agree members other) :
    ofMembers members = ofMembers other := by
  have hread : readId? other = readId? members := by rw [readId?, readId?, h.id]
  unfold ofMembers
  rw [hread, ← h.method]
  cases hid : readId? members with
  | error fault => rfl
  | ok id =>
    cases hmethod : Json.member? "method" members with
    | some document =>
      -- A call, or a method that is no string.
      have hparams := h.params (by rw [hmethod]; exact Option.some_ne_none _)
      cases document with
      | string method => simp only [ofCall, presentMember?, hparams]
      | null | bool | number | array | object => rfl
    | none =>
      cases id with
      | none => rfl
      | some id =>
        have hmember : Json.member? "id" members ≠ none := by
          rw [readId?_eq_ok_iff.mp hid]
          exact Option.some_ne_none _
        simp only [ofResponse, presentMember?, h.result hmethod hmember, h.error hmethod hmember]

/-! ### Documents -/

/-- The documents that `classify` reads as messages are the objects with an id that is one, if there
is any, and with a method that is a string, or else with an id and either a result or a failure that
can be read (`Grammatical`). They are read as the messages that they spell. Objects that agree in
the members that count are read as the same message, or have the same fault. And whatever the fault
is, a client takes the document for malformed. -/
theorem classify_grammar (document : Json) :
    ((∃ m, classify document = .ok m) ↔
        ∃ members, document = .object members ∧ Grammatical members) ∧
      (∀ m, classify document = .ok m ↔ ∃ members, document = .object members ∧ Spells members m) ∧
      (∀ members other, document = .object members → Agree members other →
        classify (.object other) = classify document) ∧
      ∀ fault, classify document = .error fault → ∀ (c : Client) answered,
        c.validateOne answered document = .error (.malformed fault) := by
  refine ⟨?_, fun m => classify_eq_ok_iff, ?_, ?_⟩
  · constructor
    · rintro ⟨m, h⟩
      obtain ⟨members, hmembers, hspells⟩ := classify_eq_ok_iff.mp h
      exact ⟨members, hmembers, hspells.grammatical⟩
    · rintro ⟨members, hmembers, hgrammatical⟩
      obtain ⟨m, hspells⟩ := hgrammatical.exists_spells
      exact ⟨m, classify_eq_ok_iff.mpr ⟨members, hmembers, hspells⟩⟩
  · rintro members other rfl hagree
    exact hagree.ofMembers_eq.symm
  · intro fault h c answered
    unfold Client.validateOne
    rw [h]

end Message

end LspSession
