import LspSession.Proofs.Client.Recorded
import LspSession.Proofs.Event.Translation
import LspSession.Proofs.Message.Framed

/-!
# `LspSession.Proofs.Client.Echo`: the chosen action goes back as it came

A server that asks for an action lists objects, each with a title and whatever else it wants to find
again. The client takes each of them apart into the title and the other members, hands the actions
to its caller, and puts the chosen one together again for the reply. What was read is in ascending
order, and so is what is put together, so the object in the reply is the one that the server sent
(`ActionItem.Spelled.toJson_eq`), member for member.

`echo_of_feed` follows this from the bytes that bring the request to the bytes that bring the reply.
The actions of the event stand for the objects of the request one by one, the reply with any of them
carries its object, and the reply with none carries `null`, at any time before a reply is sent.
-/

set_option autoImplicit false

namespace LspSession

/-! ### Actions and their objects -/

/-- A `field?` of a record in order is in order, whether the record is an object or an array. -/
theorem Json.isOrdered_of_field? {document value : Json} {index : Nat} {name : String}
    (h : document.isOrdered = true) (hfound : document.field? index name = some value) :
    value.isOrdered = true := by
  cases document with
  | object members => exact isOrdered_of_member? h hfound
  | array items => exact areOrdered_iff.mp h value (List.mem_of_getElem? hfound)
  | null | bool | number | string => cases hfound

/-- The objects of the `actions` that the parameters of a request offer, none where there is no
list. -/
def ActionItem.offered (params : Json) : List Json :=
  match params.field? 2 "actions" with
  | some (.array items) => items
  | _ => []

namespace ActionItem

/-- The objects that parameters in order offer are in order, since they are parts of them. -/
theorem isOrdered_of_mem_offered {params item : Json} (hordered : params.isOrdered = true)
    (hmem : item ∈ offered params) : item.isOrdered = true := by
  unfold offered at hmem
  split at hmem
  · next items hfield =>
    exact Json.areOrdered_iff.mp (Json.isOrdered_of_field? hordered hfield) item hmem
  · cases hmem

/-- An action that is read from an object in order is written by `ActionItem.toJson` as that object.
The title, which reading has taken out, goes back to its place among the other members. -/
theorem Spelled.toJson_eq {item : Json} {action : ActionItem} (h : Spelled item action)
    (hordered : item.isOrdered = true) : action.toJson = item := by
  cases h with
  | object htitle =>
    -- Names in ascending order are all different, so the title is taken out of one place.
    have hascending := (Json.isOrdered_object_iff.mp hordered).1
    exact congrArg Json.object (Json.sortMembers_eq_of_perm hascending
      (Json.perm_cons_withoutMember hascending.nodup htitle))

/-- Actions that are read from objects in order are written as these objects, one by one. -/
theorem map_toJson_eq {items : List Json} {actions : List ActionItem}
    (h : List.Forall₂ Spelled items actions) (hordered : ∀ item ∈ items, item.isOrdered = true) :
    actions.map toJson = items := by
  induction h with
  | nil => rfl
  | cons head tail ih =>
    obtain ⟨hitem, hitems⟩ := List.forall_mem_cons.mp hordered
    rw [List.map_cons, head.toJson_eq hitem, ih hitems]

/-- The actions that are `offered` by parameters in order are written as the objects they are read
from. Where no list is offered there are none. -/
theorem map_toJson_eq_offered {params : Json} {actions : Option (List ActionItem)}
    (h : Json.Optional Listed (params.field? 2 "actions") actions)
    (hordered : params.isOrdered = true) : (actions.getD []).map toJson = offered params := by
  have hitems (item : Json) (hmem : item ∈ offered params) : item.isOrdered = true :=
    isOrdered_of_mem_offered hordered hmem
  unfold offered at hitems ⊢
  generalize params.field? 2 "actions" = found at h hitems ⊢
  cases h with
  | absent | null => rfl
  | value h =>
    cases h with
    | array h => exact map_toJson_eq h hitems

end ActionItem

namespace Client

/-! ### The event of a request -/

/-- A request that a client takes alone gives the event of its call, as `Event.ofCall` reads it. -/
theorem ofCall_of_eventOf {c : Client} {document : Json} {r : Request} {event : Event}
    (hr : Message.classify document = .ok (.request r)) (h : c.eventOf document = .ok event) :
    Event.ofCall (some r.id) r.method r.params = .ok event := by
  unfold eventOf handle at h
  cases hvalid : c.validateOne [] document with
  | error e =>
    rw [hvalid] at h
    cases h
  | ok incoming =>
    rw [hvalid] at h
    cases h
    rcases validateOne_cases hvalid with
      ⟨id, method, params, event, hcall, hevent, rfl⟩ | ⟨response, kind, hresponse, -, -, -⟩
    -- The document is a request, so it is found to be a call and no response.
    · rw [Message.call?, hr] at hcall
      cases hcall
      rw [apply_call, hevent]
    · rw [Message.response?, hr] at hresponse
      cases hresponse

/-- A request among documents that are accepted gives the event of its call, at its own place `i`
among the events. -/
theorem ofCall_of_feed {c : Client} {bytes : Bytes} {d : Frame.Decoded} {events : List Event}
    (hdecode : Frame.decode c.config.maxMessageSize (c.received ++ bytes) = .ok d)
    (haccepted : (c.feed bytes).2 = .ok events) {i : Nat} {document : Json} {r : Request}
    (hdocument : d.documents[i]? = some document)
    (hr : Message.classify document = .ok (.request r)) :
    ∃ event, events[i]? = some event ∧
      Event.ofCall (some r.id) r.method r.params = .ok event := by
  have hfed := fed_feed c bytes
  rw [haccepted] at hfed
  generalize (c.feed bytes).1 = next at hfed
  cases hfed with
  | waiting hshort =>
    rw [hdecode] at hshort
    cases hshort
  | accepted hwhole hbatch =>
    rw [hdecode] at hwhole
    cases hwhole
    -- A document gives the same event in a batch as alone, so the two rows agree at each place.
    have hevents := congrArg (·[i]?) (map_event_of_takenInTurn (takenInTurn_iff.mpr hbatch))
    simp only [List.getElem?_map, hdocument, Option.map_some] at hevents
    obtain ⟨event, hevent, hone⟩ := Option.map_eq_some_iff.mp hevents
    exact ⟨event, hevent, ofCall_of_eventOf hr hone.symm⟩

/-! ### Replies -/

/-- A request for an action is answered with a `result`: the reply is sent, one response with the
result goes behind the bytes for the server, and it is this very response that is read from its
frame. -/
structure Answers (c : Client) (id : RequestId) (action : Option ActionItem) (result : Json) :
    Prop where
  sent : (c.replyToShowMessageRequest id action).2 = .ok ()
  framed : (c.replyToShowMessageRequest id action).1.outgoing =
    c.outgoing ++ Frame.encode (Response.success id result).wire
  arrives : (Message.response (.success id result)).Arrives

/-- A request that awaits a reply is answered with the document of the action, or with `null` if
none is chosen. -/
theorem answers_of_isAwaitingReply {c : Client} {id : RequestId} (hstate : c.state ≠ .exited)
    (hawaiting : c.isAwaitingReply id = true) (action : Option ActionItem) :
    c.Answers id action (orNull (action.map ActionItem.toJson)) := by
  have hdone : (c.perform (.replyToShowMessageRequest id action)).2 = .done (.ok ()) :=
    (perform_eq_done_iff c rfl).mpr ⟨hstate, hawaiting⟩
  have hnext := congrArg outgoing (perform_of_done rfl hdone)
  exact ⟨Outcome.done.inj hdone, hnext, Message.arrives_of_received rfl⟩

/-- A request for an action that is accepted gives one event, at its place among the events of the
batch. The event carries the id of the request and an action for each object that the server sent,
in their order, and none if the list of actions is `null` or not there. The session goes on. As long
as no reply to the id is sent, and the session has not ended, the reply with any of the actions
sends the object that the server sent for it, with all its members, and the reply with none sends
`null`. -/
theorem echo_of_feed {c : Client} {bytes : Bytes} {d : Frame.Decoded} {events : List Event}
    (hdecode : Frame.decode c.config.maxMessageSize (c.received ++ bytes) = .ok d)
    (haccepted : (c.feed bytes).2 = .ok events) {i : Nat} {document : Json} {r : Request}
    (hdocument : d.documents[i]? = some document)
    (hr : Message.classify document = .ok (.request r))
    (hmethod : r.method = "window/showMessageRequest") :
    ∃ params severity text, ∃ actions : List ActionItem, r.params = some params ∧
      events[i]? = some (.showMessageRequest r.id severity text actions) ∧
      actions.map ActionItem.toJson = ActionItem.offered params ∧
      (params.field? 2 "actions" = none ∨ params.field? 2 "actions" = some .null →
        actions = []) ∧
      (c.state ≠ .exited → (c.feed bytes).1.state ≠ .exited) ∧
      ∀ more, (∀ step ∈ ((c.feed bytes).1.run more).2, step.1.repliedId? step.2 ≠ some r.id) →
        let later := ((c.feed bytes).1.run more).1
        later.state ≠ .exited →
          (∀ (k : Nat) (action : ActionItem), actions[k]? = some action →
            ∃ item, (ActionItem.offered params)[k]? = some item ∧ item.isOrdered = true ∧
              later.Answers r.id (some action) item) ∧
          later.Answers r.id none .null := by
  obtain ⟨event, hevent, hcall⟩ := ofCall_of_feed hdecode haccepted hdocument hr
  have hnamed : ServerMethod.Named r.method .showMessageRequest := hmethod ▸ .showMessageRequest
  rw [Event.ofCall_of_named hnamed, Event.ofMethod_eq_ok_iff] at hcall
  obtain ⟨params, hparams, hmeans⟩ := hcall
  cases hmeans with
  | showMessageRequest htext hseverity hactions =>
    rename_i number severity text actions
    have hordered : params.isOrdered = true :=
      Message.isOrdered_params_of_classify hr
        (Frame.isOrdered_of_decode hdecode document (List.mem_of_getElem? hdocument)) params hparams
    have hsame := ActionItem.map_toJson_eq_offered hactions hordered
    refine ⟨params, severity, text, actions.getD [], hparams, hevent, hsame, fun hnone => ?_,
      (fed_feed c bytes).state_ne_exited, fun more hsilent => ?_⟩
    · have hoffered : ActionItem.offered params = [] := by
        unfold ActionItem.offered
        rcases hnone with hfield | hfield <;> rw [hfield]
      rw [hoffered, List.map_eq_nil_iff] at hsame
      exact hsame
    · intro later hstate
      -- The batch recorded the id, and no reply to it has been sent since.
      have hawaiting : later.isAwaitingReply r.id = true := by
        refine (run_isAwaitingReply_iff _ more r.id).mpr (Or.inr ⟨?_, hsilent⟩)
        refine (isAwaitingReply_feed_iff hdecode haccepted r.id).mpr (Or.inl ?_)
        refine Message.mem_recordedIds_iff.mpr
          ⟨document, List.mem_of_getElem? hdocument, r, hr, ?_, rfl⟩
        rw [hmethod]
        rfl
      have hanswers := answers_of_isAwaitingReply hstate hawaiting
      refine ⟨fun k action hk => ?_, hanswers none⟩
      have hitem : (ActionItem.offered params)[k]? = some action.toJson := by
        rw [← hsame, List.getElem?_map, hk, Option.map_some]
      exact ⟨action.toJson, hitem,
        ActionItem.isOrdered_of_mem_offered hordered (List.mem_of_getElem? hitem),
        hanswers (some action)⟩

/-- An object of an action with more than a `title`. -/
private def skipObject : Json :=
  .object [("args", .array [.number (.integer 1), .null]), ("title", .string "Skip"),
    ("why", .object [("deep", .bool true)])]

/-- The action that is read from `skipObject`. -/
private def skip : ActionItem :=
  ⟨"Skip", [("args", .array [.number (.integer 1), .null]),
    ("why", .object [("deep", .bool true)])]⟩

/-- Parameters that offer two actions. -/
private def choiceParams : Json :=
  .object [("actions", .array [.object [("title", .string "Open")], skipObject]),
    ("message", .string "hi"), ("type", .number (.integer 2))]

/-- A request that offers two actions, under an id that is a string. -/
private def choice : Json :=
  .object [("id", .string "a"), ("jsonrpc", .string "2.0"),
    ("method", .string "window/showMessageRequest"), ("params", choiceParams)]

/-- The request `choice` is decoded as it is, because it is integral and its members are in order.
-/
private theorem decode_choice :
    Frame.decode new.config.maxMessageSize (new.received ++ Frame.encode choice) =
      .ok ⟨[choice], (Frame.encode choice).length⟩ := by
  have hbody : (Frame.bodyOf choice).length = 180 := by
    rw [Frame.bodyOf_eq]
    decide +kernel
  have hframe : (Frame.encode choice).length ≤ Frame.sizeBound := by
    rw [Frame.length_encode, hbody]
    decide +kernel
  have hlimit : (Frame.bodyOf choice).length ≤ new.config.maxMessageSize := by
    rw [hbody]
    decide +kernel
  rw [show new.received = [] from rfl, List.nil_append]
  exact Frame.decode_encode_of_isOrdered (by decide +kernel) (by decide +kernel) hlimit hframe

/-- `choice` is accepted, and gives one event with both actions. -/
private theorem feed_choice :
    new.feed (Frame.encode choice) =
      ((new.discard.applyAll
        [.call (.showMessageRequest (.string "a") .warning "hi" [⟨"Open", []⟩, skip])]).1,
        .ok [.showMessageRequest (.string "a") .warning "hi" [⟨"Open", []⟩, skip]]) := by
  have hvalid : (new.receive (Frame.encode choice)).validate [choice] =
      .ok [.call (.showMessageRequest (.string "a") .warning "hi" [⟨"Open", []⟩, skip])] := rfl
  exact @feed_of_validate new (Frame.encode choice) _ _ decode_choice hvalid

/-- `echo_of_feed` for the second of two actions: it is sent back with its other members, after the
client has sent a request of its own, and so is `null` for none. -/
theorem skip_echoed :
    let c := (new.feed (Frame.encode choice)).1
    let later := (c.run [.sendInitialize ⟨none, none, .off⟩]).1
    (new.feed (Frame.encode choice)).2 =
        .ok [.showMessageRequest (.string "a") .warning "hi" [⟨"Open", []⟩, skip]] ∧
      later.Answers (.string "a") (some skip) skipObject ∧
      later.Answers (.string "a") none .null := by
  intro c later
  have haccepted : (new.feed (Frame.encode choice)).2 =
      .ok [.showMessageRequest (.string "a") .warning "hi" [⟨"Open", []⟩, skip]] :=
    congrArg Prod.snd feed_choice
  have hr : Message.classify choice = .ok (.request
      ⟨.string "a", "window/showMessageRequest", some choiceParams⟩) := rfl
  obtain ⟨params, severity, text, actions, hparams, hevent, -, -, -, hecho⟩ :=
    echo_of_feed (c := new) (i := 0) decode_choice haccepted rfl hr rfl
  cases hparams
  cases hevent
  have hnone : ∀ step ∈ (c.run [.sendInitialize ⟨none, none, .off⟩]).2,
      step.1.repliedId? step.2 ≠ some (.string "a") := by
    intro step hstep
    rw [List.mem_singleton.mp hstep, Operation.repliedId?_of_response? rfl]
    exact nofun
  have hstate : ((new.feed (Frame.encode choice)).1.run
      [.sendInitialize ⟨none, none, .off⟩]).1.state ≠ .exited := by
    rw [feed_choice]
    exact nofun
  obtain ⟨hactions, hdismissed⟩ := hecho _ hnone hstate
  obtain ⟨item, hitem, -, hanswers⟩ := hactions 1 skip rfl
  cases hitem
  exact ⟨haccepted, hanswers, hdismissed⟩

end Client

end LspSession
