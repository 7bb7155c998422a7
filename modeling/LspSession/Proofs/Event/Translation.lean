import LspSession.Client.Receive
import LspSession.Proofs.Json.Record

/-!
# `LspSession.Proofs.Event.Translation`: which calls come to which events

`Event.Means` says which event a call of the server comes to, for each of the four methods that are
understood. It looks at the documents of the parameters and borrows nothing from the readers but
what a single diagnostic is: an array and an object spell the same parameters (`Json.IsRecord`,
`Json.field?`), a severity stands for its number (`Severity.Numbered`), and actions and diagnostics
stand in the order in which they are listed.

`Event.ofCall_exact` says that a call of such a method succeeds exactly if its parameters spell an
event, and with that event. A call of any other method is handed on as it came.
-/

set_option autoImplicit false

namespace LspSession

/-! ### Methods -/

/-- The methods that are understood, by their names. A call with any other name is handed on as
`Event.unsupported`, and it is no error. -/
inductive ServerMethod.Named : String → ServerMethod → Prop where
  | showMessage : Named "window/showMessage" .showMessage
  | showMessageRequest : Named "window/showMessageRequest" .showMessageRequest
  | logMessage : Named "window/logMessage" .logMessage
  | publishDiagnostics : Named "textDocument/publishDiagnostics" .publishDiagnostics

/-- A method is found by `ofName?` by its name and by no other. The search goes through the list of
all methods, and their names are distinct. -/
theorem ServerMethod.ofName?_eq_some_iff {name : String} {method : ServerMethod} :
    ofName? name = some method ↔ Named name method := by
  have hnamed : Named name method ↔ method.name = name := by
    constructor
    · rintro ⟨⟩ <;> rfl
    · rintro rfl
      cases method
      · exact .showMessage
      · exact .showMessageRequest
      · exact .logMessage
      · exact .publishDiagnostics
  rw [hnamed]
  constructor
  · intro h
    have hfound := List.find?_some h
    exact eq_of_beq hfound
  · rintro rfl
    exact ofName?_name method

/-! ### Severities -/

/-- The severities, numbered from one. The numbers are plain integers here, while `Severity.code`
gives them as the 64-bit numbers that parameters are read to. -/
inductive Severity.Numbered : Int → Severity → Prop where
  | error : Numbered 1 .error
  | warning : Numbered 2 .warning
  | info : Numbered 3 .info
  | log : Numbered 4 .log

namespace Severity

/-- A severity has its own number and no other: `Numbered` is the graph of `Severity.code`. -/
theorem numbered_iff {number : Int} {severity : Severity} :
    Numbered number severity ↔ number = severity.code.toInt := by
  constructor
  · rintro ⟨⟩ <;> decide
  · rintro rfl
    cases severity
    · exact .error
    · exact .warning
    · exact .info
    · exact .log

/-- The numbers of the severities are those from one to four, so any other number in the parameters
of a message is a fault. -/
theorem exists_numbered_iff {number : Int} :
    (∃ severity, Numbered number severity) ↔ 1 ≤ number ∧ number ≤ 4 := by
  constructor
  · rintro ⟨severity, ⟨⟩⟩ <;> decide
  · rintro ⟨hlow, hhigh⟩
    have hcases : number = 1 ∨ number = 2 ∨ number = 3 ∨ number = 4 := by omega
    obtain rfl | rfl | rfl | rfl := hcases
    · exact ⟨_, .error⟩
    · exact ⟨_, .warning⟩
    · exact ⟨_, .info⟩
    · exact ⟨_, .log⟩

/-- The severity that `ofCode?` finds for a code is the one that the code numbers, and for every
other code it finds none. -/
theorem ofCode?_eq_some_iff {code : Int64} {severity : Severity} :
    ofCode? code = some severity ↔ Numbered code.toInt severity := by
  rw [numbered_iff, Int64.toInt_inj]
  constructor
  · intro h
    have hfound := List.find?_some h
    exact (eq_of_beq hfound).symm
  · rintro rfl
    exact ofCode?_code severity

end Severity

/-! ### Parameters -/

/-- Parameters with a text to show or to log: first the number of its severity, then the text. As an
array they may hold no more than `fields` items, as an object any members besides these. -/
structure Event.SpellsText (fields : Nat) (params : Json) (number : Int) (text : String) :
    Prop where
  form : params.IsRecord fields
  kind : params.field? 0 "type" = some (.number (.integer number))
  text : params.field? 1 "message" = some (.string text)

/-- An action is an object with a title. Its other members belong to it as they are and in their
order, so that a reply can give them back. -/
inductive ActionItem.Spelled : Json → ActionItem → Prop where
  | object {members : List (String × Json)} {title : String}
      (h : Json.member? "title" members = some (.string title)) :
    Spelled (.object members) ⟨title, Json.withoutMember "title" members⟩

/-- Actions are listed in an array, in the order in which they are offered, and each item of it
spells one (`ActionItem.Spelled`). -/
inductive ActionItem.Listed : Json → List ActionItem → Prop where
  | array {items : List Json} {actions : List ActionItem}
      (h : List.Forall₂ ActionItem.Spelled items actions) :
    Listed (.array items) actions

/-- A version is written as a number, an integer that 32 bits with a sign can hold. -/
inductive Diagnostics.Version : Json → Int32 → Prop where
  | number (version : Int32) : Version (.number (.integer version.toInt)) version

/-- Parameters with the diagnostics of a document: its URI, the diagnostics in an array, and a
version, which only an object may lack. Each diagnostic is read by `Diagnostic.ofJson`, of which
nothing is said here. -/
structure Diagnostics.Spelled (params : Json) (d : Diagnostics) : Prop where
  form : params.IsRecord 3
  uri : params.field? 0 "uri" = some (.string d.uri.text)
  diagnostics : ∃ items, params.field? 1 "diagnostics" = some (.array items) ∧
    List.Forall₂ (fun item diagnostic => Diagnostic.ofJson item = .ok diagnostic) items
      d.diagnostics
  version : Json.Optional Diagnostics.Version (params.field? 2 "version") d.version
  complete : params.isObject = true ∨ (params.field? 2 "version").isSome = true

/-- The event that a call of a method comes to, by the id and the parameters of the call. Only the
request for an action looks at the id: the event needs one, since it is answered later. -/
inductive Event.Means : ServerMethod → Option RequestId → Json → Event → Prop where
  | showMessage {id : Option RequestId} {params : Json} {number : Int} {severity : Severity}
      {text : String} (h : SpellsText 2 params number text)
      (hseverity : Severity.Numbered number severity) :
    Means .showMessage id params (.showMessage severity text)
  | logMessage {id : Option RequestId} {params : Json} {number : Int} {severity : Severity}
      {text : String} (h : SpellsText 2 params number text)
      (hseverity : Severity.Numbered number severity) :
    Means .logMessage id params (.logMessage severity text)
  /-- A request without actions offers none. -/
  | showMessageRequest {id : RequestId} {params : Json} {number : Int} {severity : Severity}
      {text : String} {actions : Option (List ActionItem)} (h : SpellsText 3 params number text)
      (hseverity : Severity.Numbered number severity)
      (hactions : Json.Optional ActionItem.Listed (params.field? 2 "actions") actions) :
    Means .showMessageRequest (some id) params
      (.showMessageRequest id severity text (actions.getD []))
  | publishDiagnostics {id : Option RequestId} {params : Json} {diagnostics : Diagnostics}
      (h : diagnostics.Spelled params) :
    Means .publishDiagnostics id params (.publishDiagnostics diagnostics)

namespace Event

open Json

/-! ### Readers -/

variable {method : ServerMethod} {id : Option RequestId} {params : Option Json} {document : Json}
  {event : Event}

/-- The parameters of a method are read by `readParams` from the document that has to be there. A
call without parameters is an error for every method that is understood. -/
theorem readParams_eq_ok_iff {α : Type} {read : Conversion α} {a : α} :
    readParams method read params = .ok a ↔ ∃ j, params = some j ∧ read j = .ok a := by
  cases params with
  | none => simp [readParams]
  | some j => simp [readParams, mapError_eq_ok_iff]

/-- A severity is read by `readSeverity` from its number, and the number of no severity is an error
that names the method. -/
theorem readSeverity_eq_ok_iff {code : Int64} {severity : Severity} :
    readSeverity method code = .ok severity ↔ Severity.Numbered code.toInt severity := by
  rw [← Severity.ofCode?_eq_some_iff, readSeverity]
  cases Severity.ofCode? code <;> simp

/-- Parameters with a text are read by `TextParams.ofJson` from what spells them (`SpellsText`). The
number need not be that of a severity yet, but 64 bits hold it. -/
theorem TextParams.ofJson_eq_ok_iff {p : TextParams} :
    TextParams.ofJson document = .ok p ↔ SpellsText 2 document p.kind.toInt p.message := by
  obtain ⟨kind, message⟩ := p
  -- An array and an object are read by the same fields, so `P` is stated of the document.
  refine (toRecord_eq_ok_iff
    (P := document.field? 0 "type" = some (.number (.integer kind.toInt)) ∧
      document.field? 1 "message" = some (.string message)) fun source hsource => ?_).trans ?_
  · simp [Fields.seq_eq_ok_iff, Fields.map_eq_ok_iff, FieldSource.required_eq_ok_iff hsource,
      toInt64_eq_ok_iff, toText_eq_ok_iff]
  · exact ⟨fun ⟨hform, hkind, htext⟩ => ⟨hform, hkind, htext⟩,
      fun ⟨hform, hkind, htext⟩ => ⟨hform, hkind, htext⟩⟩

end Event

/-- An action is read by `ActionItem.ofJson` from what spells it, an object with a title. Unlike
parameters an action cannot be written as an array. -/
theorem ActionItem.ofJson_eq_ok_iff {document : Json} {action : ActionItem} :
    ofJson document = .ok action ↔ Spelled document action := by
  cases document with
  | object members =>
    have hsource : Json.FieldSource.Of ⟨"MessageActionItem", 1⟩ (.members members)
        (.object members) := .members members
    rw [ofJson, bind_eq_ok_iff]
    simp only [Json.Fields.result_eq_ok_iff, Json.FieldSource.required_eq_ok_iff hsource,
      Json.toText_eq_ok_iff]
    constructor
    · rintro ⟨title, ⟨_, htitle, rfl⟩, ⟨⟩⟩
      exact .object htitle
    · rintro ⟨htitle⟩
      exact ⟨_, ⟨_, htitle, rfl⟩, rfl⟩
  | null | bool | number | string | array => exact iff_of_false nofun nofun

/-- Actions are read from the array that lists them, and one item that is no action makes the whole
list unreadable. -/
theorem ActionItem.toList_ofJson_eq_ok_iff (document : Json) (actions : List ActionItem) :
    Json.toList ofJson document = .ok actions ↔ Listed document actions := by
  rw [Json.toList_eq_ok_iff]
  simp only [ofJson_eq_ok_iff]
  constructor
  · rintro ⟨items, rfl, hitems⟩
    exact .array hitems
  · rintro ⟨hitems⟩
    exact ⟨_, rfl, hitems⟩

/-- The parameters of a request for an action are read by `ActionParams.ofJson` from what spells
them: a text, and actions, which may be absent or `null`. -/
theorem Event.ActionParams.ofJson_eq_ok_iff {document : Json} {p : ActionParams} :
    ofJson document = .ok p ↔
      SpellsText 3 document p.kind.toInt p.message ∧
        Json.Optional ActionItem.Listed (document.field? 2 "actions") p.actions := by
  obtain ⟨kind, message, actions⟩ := p
  refine (Json.toRecord_eq_ok_iff
    (P := document.field? 0 "type" = some (.number (.integer kind.toInt)) ∧
      document.field? 1 "message" = some (.string message) ∧
      Json.Optional ActionItem.Listed (document.field? 2 "actions") actions)
    fun source hsource => ?_).trans ?_
  · have hnull (actions : List ActionItem) : ¬ActionItem.Listed .null actions := nofun
    have hactions : source.trailing 2 "actions" (Json.toList ActionItem.ofJson) = .ok actions ↔
        Json.Optional ActionItem.Listed (document.field? 2 "actions") actions :=
      Json.FieldSource.trailing_eq_ok_iff hsource ActionItem.toList_ofJson_eq_ok_iff hnull
    simp [Json.Fields.seq_eq_ok_iff, Json.Fields.map_eq_ok_iff,
      Json.FieldSource.required_eq_ok_iff hsource, Json.toInt64_eq_ok_iff, Json.toText_eq_ok_iff,
      hactions]
  · exact ⟨fun ⟨hform, hkind, htext, hactions⟩ => ⟨⟨hform, hkind, htext⟩, hactions⟩,
      fun ⟨⟨hform, hkind, htext⟩, hactions⟩ => ⟨hform, hkind, htext, hactions⟩⟩

/-- A version is read by `toInt32` from its number and from nothing else. -/
theorem Diagnostics.toInt32_eq_ok_iff_version (document : Json) (version : Int32) :
    Json.toInt32 document = .ok version ↔ Version document version := by
  rw [Json.toInt32_eq_ok_iff]
  exact ⟨fun h => h ▸ .number version, fun ⟨_⟩ => rfl⟩

/-- Diagnostics are read by `Diagnostics.ofJson` from what spells them. The version is the one field
that an array must have and an object need not. -/
theorem Diagnostics.ofJson_eq_ok_iff {document : Json} {d : Diagnostics} :
    ofJson document = .ok d ↔ Spelled document d := by
  obtain ⟨uri, diagnostics, version⟩ := d
  refine (Json.toRecord_eq_ok_iff
    (P := document.field? 0 "uri" = some (.string uri.text) ∧
      (∃ items, document.field? 1 "diagnostics" = some (.array items) ∧
        List.Forall₂ (fun item diagnostic => Diagnostic.ofJson item = .ok diagnostic) items
          diagnostics) ∧
      Json.Optional Version (document.field? 2 "version") version ∧
      (document.isObject = true ∨ (document.field? 2 "version").isSome = true))
    fun source hsource => ?_).trans ?_
  -- A version is never `null`, so a member that is `null` stands for no version.
  · have hnull (version : Int32) : ¬Version .null version := nofun
    have hversion : source.optional 2 "version" Json.toInt32 = .ok version ↔
        Json.Optional Version (document.field? 2 "version") version ∧
          (document.isObject = true ∨ (document.field? 2 "version").isSome = true) :=
      Json.FieldSource.optional_eq_ok_iff hsource toInt32_eq_ok_iff_version hnull
    simp [Json.Fields.seq_eq_ok_iff, Json.Fields.map_eq_ok_iff,
      Json.FieldSource.required_eq_ok_iff hsource, Json.toUri_eq_ok_iff, Json.toList_eq_ok_iff,
      hversion]
  · exact ⟨fun ⟨hform, huri, hlist, hversion, hcomplete⟩ =>
        ⟨hform, huri, hlist, hversion, hcomplete⟩,
      fun ⟨hform, huri, hlist, hversion, hcomplete⟩ =>
        ⟨hform, huri, hlist, hversion, hcomplete⟩⟩

namespace Event

variable {method : ServerMethod} {id : Option RequestId} {params : Option Json} {event : Event}

/-! ### Calls -/

/-- What is made of a shown or logged text is made of the severity and the text that the parameters
spell. The two methods with a text differ only in the event that `make` puts around these. -/
theorem ofText_eq_ok_iff {make : Severity → String → Event} :
    (do
      let p ← readParams method TextParams.ofJson params
      return make (← readSeverity method p.kind) p.message) = .ok event ↔
      ∃ document, params = some document ∧ ∃ number severity text,
        SpellsText 2 document number text ∧ Severity.Numbered number severity ∧
          make severity text = event := by
  simp only [bind_eq_ok_iff, readParams_eq_ok_iff, readSeverity_eq_ok_iff,
    TextParams.ofJson_eq_ok_iff]
  constructor
  · rintro ⟨p, ⟨document, rfl, h⟩, severity, hseverity, ⟨⟩⟩
    exact ⟨document, rfl, _, severity, p.message, h, hseverity, rfl⟩
  · rintro ⟨document, rfl, number, severity, text, h, hseverity, rfl⟩
    -- The number fits into 64 bits because it is that of a severity.
    obtain rfl := Severity.numbered_iff.mp hseverity
    exact ⟨⟨severity.code, text⟩, ⟨document, rfl, h⟩, severity, hseverity, rfl⟩

/-- A method that is understood comes to the event that its parameters spell: `ofMethod` succeeds
exactly where `Means` relates an event to them. -/
theorem ofMethod_eq_ok_iff :
    ofMethod method id params = .ok event ↔
      ∃ document, params = some document ∧ Means method id document event := by
  cases method with
  | showMessage =>
    rw [ofMethod, ofText_eq_ok_iff]
    refine exists_congr fun document => and_congr_right fun _ => ?_
    constructor
    · rintro ⟨number, severity, text, h, hseverity, rfl⟩
      exact .showMessage h hseverity
    · intro h
      cases h with
      | showMessage h hseverity => exact ⟨_, _, _, h, hseverity, rfl⟩
  | logMessage =>
    rw [ofMethod, ofText_eq_ok_iff]
    refine exists_congr fun document => and_congr_right fun _ => ?_
    constructor
    · rintro ⟨number, severity, text, h, hseverity, rfl⟩
      exact .logMessage h hseverity
    · intro h
      cases h with
      | logMessage h hseverity => exact ⟨_, _, _, h, hseverity, rfl⟩
  | showMessageRequest =>
    cases id with
    -- Without an id neither side holds: the reader fails and `Means` has no such case.
    | none => exact iff_of_false nofun fun ⟨_, _, h⟩ => nomatch h
    | some id =>
      simp only [ofMethod, bind_eq_ok_iff, readParams_eq_ok_iff, readSeverity_eq_ok_iff,
        ActionParams.ofJson_eq_ok_iff]
      constructor
      · rintro ⟨p, ⟨document, rfl, h, hactions⟩, severity, hseverity, ⟨⟩⟩
        exact ⟨document, rfl, .showMessageRequest h hseverity hactions⟩
      · rintro ⟨document, rfl, h⟩
        cases h with
        | showMessageRequest h hseverity hactions =>
          obtain rfl := Severity.numbered_iff.mp hseverity
          exact ⟨⟨_, _, _⟩, ⟨document, rfl, h, hactions⟩, _, hseverity, rfl⟩
  | publishDiagnostics =>
    simp only [ofMethod, bind_eq_ok_iff, readParams_eq_ok_iff, Diagnostics.ofJson_eq_ok_iff]
    constructor
    · rintro ⟨diagnostics, ⟨document, rfl, h⟩, ⟨⟩⟩
      exact ⟨document, rfl, .publishDiagnostics h⟩
    · rintro ⟨document, rfl, h⟩
      cases h with
      | publishDiagnostics h => exact ⟨_, ⟨document, rfl, h⟩, rfl⟩

/-- A call of a method that is understood comes to what `ofMethod` makes of it. -/
theorem ofCall_of_named {name : String} (h : ServerMethod.Named name method) :
    ofCall id name params = ofMethod method id params := by
  rw [ofCall, ServerMethod.ofName?_eq_some_iff.mpr h]

/-- A call comes to what is said here and to nothing else. If its method is none of the four that
are understood (`ServerMethod.Named`), it is handed on as it came. If it is, the call succeeds
exactly if there are parameters that spell an event of the method (`Means`), and with that event: a
text to show or to log needs one of the four numbers of a severity, and a request for an action
needs an id. A call that does not succeed is reported as malformed. No code but that of a severity
is taken for one, and those are the codes from one to four. -/
theorem ofCall_exact (id : Option RequestId) (name : String) (params : Option Json) :
    ((∀ method, ¬ServerMethod.Named name method) →
        ofCall id name params = .ok (.unsupported id name params)) ∧
      (∀ method, ServerMethod.Named name method → ∀ event,
        ofCall id name params = .ok event ↔
          ∃ document, params = some document ∧ Means method id document event) ∧
      (∀ e, Client.receiveCall id name params = .error e →
        ∃ fault, ofCall id name params = .error fault ∧ e = .malformed fault) ∧
      (∀ code severity,
        Severity.ofCode? code = some severity ↔ Severity.Numbered code.toInt severity) ∧
      ∀ number, (∃ severity, Severity.Numbered number severity) ↔ 1 ≤ number ∧ number ≤ 4 := by
  refine ⟨fun h => ?_, fun method h event => ?_, fun e h => ?_,
    fun code severity => Severity.ofCode?_eq_some_iff, fun number => Severity.exists_numbered_iff⟩
  · have hnone : ServerMethod.ofName? name = none :=
      Option.eq_none_iff_forall_ne_some.mpr fun method hfound =>
        h method (ServerMethod.ofName?_eq_some_iff.mp hfound)
    rw [ofCall, hnone]
  · rw [ofCall_of_named h, ofMethod_eq_ok_iff]
  -- A fault of the translation is the only way in which a call fails.
  · unfold Client.receiveCall at h
    split at h
    · cases h
    · next fault hfault =>
      cases h
      exact ⟨fault, hfault, rfl⟩

end Event

end LspSession
