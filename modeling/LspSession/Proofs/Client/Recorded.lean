import LspSession.Proofs.Client.Accept
import LspSession.Proofs.Client.InTurn
import LspSession.Proofs.Client.Replies
import LspSession.Proofs.Frame.RoundTrip

/-!
# `LspSession.Proofs.Client.Recorded`: which requests of the server are taken note of

A request of the server is recorded, to be replied to later, by way of its event: the id is that of
`Event.requestId?`. The event of a request for an action has an id, and so has that of a request
whose method is not understood. The other three methods that are understood are notifications, and
their events have no place for an id. If the server gives one of them an id all the same, then the
document is a request, its batch is accepted, and the id is lost
(`showMessage_request_not_recorded`).

`recorded_of_feed` says exactly which ids a batch that is accepted adds to those that await a reply,
and that each of them stays there until a reply to it is sent, which the client does not refuse
before its session has ended.
-/

set_option autoImplicit false

namespace LspSession

/-- The event of a call keeps the id if the call asks for an action, or if its method is not
understood. The other three methods have events without a place for it (`Event.requestId?`). -/
def Event.keepsId (method : String) : Bool :=
  match ServerMethod.ofName? method with
  | none | some .showMessageRequest => true
  | some .showMessage | some .logMessage | some .publishDiagnostics => false

/-- The event of a call carries the id of the call exactly if `Event.keepsId` says so of its method.
-/
theorem Event.requestId?_of_ofCall {id : Option RequestId} {method : String}
    {params : Option Json} {event : Event} (h : Event.ofCall id method params = .ok event) :
    event.requestId? = if Event.keepsId method then id else none := by
  unfold Event.keepsId
  cases Event.translated_of_ofCall h with
  | showMessage hmethod | logMessage hmethod | publishDiagnostics hmethod | unsupported hmethod =>
    rw [hmethod]
    rfl
  -- A request for an action is understood only with an id.
  | showMessageRequest hid hmethod =>
    rw [hmethod, hid]
    rfl

/-- The id of the request that a document is, if its event keeps it. A response or a notification
has none. -/
def Message.recordedId? (document : Json) : Option RequestId :=
  match classify document with
  | .ok (.request r) => if Event.keepsId r.method then some r.id else none
  | _ => none

/-- What is recorded for a call is its id, if its event keeps it by `Event.keepsId`. -/
theorem Message.recordedId?_of_call? {document : Json} {id : Option RequestId} {method : String}
    {params : Option Json} (h : call? document = some (id, method, params)) :
    recordedId? document = if Event.keepsId method then id else none := by
  unfold call? at h
  unfold recordedId?
  split at h
  · next r hr =>
    cases h
    rw [hr]
  · next n hn =>
    cases h
    rw [hn]
    exact (ite_self _).symm
  · cases h

/-- Nothing is recorded for a response. -/
theorem Message.recordedId?_of_response? {document : Json} {r : Response}
    (h : response? document = some r) : recordedId? document = none := by
  unfold response? at h
  unfold recordedId?
  split at h
  · next hr => rw [hr]
  · cases h

/-- An id is the `recordedId?` of one of some documents if one of them is a request with it whose
event keeps it. -/
theorem Message.mem_recordedIds_iff {documents : List Json} {id : RequestId} :
    id ∈ documents.filterMap Message.recordedId? ↔
      ∃ document ∈ documents, ∃ r, classify document = .ok (.request r) ∧
        Event.keepsId r.method = true ∧ r.id = id := by
  rw [List.mem_filterMap]
  refine exists_congr fun document => and_congr_right fun _ => ?_
  unfold Message.recordedId?
  constructor
  · intro h
    split at h
    · next r hr =>
      split at h
      · next hkeeps =>
        cases h
        exact ⟨r, hr, hkeeps, rfl⟩
      · cases h
    · cases h
  · rintro ⟨r, hr, hkeeps, rfl⟩
    simp only [hr, hkeeps, if_true]

namespace Client

/-! ### Batches -/

/-- The event that `eventOf` gives for a document alone carries the id that is recorded for the
document, and no other client is needed to tell which. -/
theorem requestId?_of_eventOf {c : Client} {document : Json} {event : Event}
    (h : c.eventOf document = .ok event) :
    event.requestId? = Message.recordedId? document := by
  unfold eventOf handle at h
  cases hvalid : c.validateOne [] document with
  | error e =>
    rw [hvalid] at h
    cases h
  | ok incoming =>
    rw [hvalid] at h
    cases h
    rcases validateOne_cases hvalid with
      ⟨id, method, params, event, hcall, hevent, rfl⟩ | ⟨response, kind, hresponse, -, hid, -⟩
    · rw [apply_call, Message.recordedId?_of_call? hcall]
      exact Event.requestId?_of_ofCall hevent
    · -- What a response means is a reply to the client, and its event carries no id.
      rw [Message.recordedId?_of_response? hresponse]
      cases incoming with
      | call event => cases hid
      | initializeReply id outcome | shutdownReply id outcome => cases outcome <;> rfl

/-- The events that documents give alone carry the ids that are recorded for the documents, in their
order. -/
theorem requestIds_of_map_eventOf {c : Client} {documents : List Json} {events : List Event}
    (hevents : events.map Except.ok = documents.map c.eventOf) :
    events.filterMap Event.requestId? = documents.filterMap Message.recordedId? := by
  induction documents generalizing events with
  | nil =>
    rw [List.map_nil, List.map_eq_nil_iff] at hevents
    rw [hevents]
    rfl
  | cons document rest ih =>
    cases events with
    | nil => cases hevents
    | cons event more =>
      obtain ⟨hone, hmore⟩ := List.cons.inj hevents
      rw [filterMap_cons_eq_append, filterMap_cons_eq_append, requestId?_of_eventOf hone.symm,
        ih hmore]

/-- The events of documents that are taken in turn carry the ids that are recorded for them, because
each document gives the event that it gives alone. -/
theorem requestIds_of_takenInTurn {c last : Client} {documents : List Json}
    {events : List Event} (h : TakenInTurn c documents last events) :
    events.filterMap Event.requestId? = documents.filterMap Message.recordedId? :=
  requestIds_of_map_eventOf (map_event_of_takenInTurn h)

/-- Bytes that `feed` accepts add to the ids that await a reply those recorded for their documents,
and take none out. -/
theorem isAwaitingReply_feed_iff {c : Client} {bytes : Bytes} {d : Frame.Decoded}
    {events : List Event}
    (hdecode : Frame.decode c.config.maxMessageSize (c.received ++ bytes) = .ok d)
    (haccepted : (c.feed bytes).2 = .ok events) (id : RequestId) :
    (c.feed bytes).1.isAwaitingReply id = true ↔
      id ∈ d.documents.filterMap Message.recordedId? ∨ c.isAwaitingReply id = true := by
  have hfed := fed_feed c bytes
  rw [haccepted] at hfed
  generalize (c.feed bytes).1 = next at hfed
  -- Bytes that decode are not waited for, so the batch was handled.
  cases hfed with
  | waiting hshort =>
    rw [hdecode] at hshort
    cases hshort
  | accepted hwhole hbatch =>
    rw [hdecode] at hwhole
    cases hwhole
    rw [← requestIds_of_takenInTurn (takenInTurn_iff.mpr hbatch)]
    exact (handledAll_of_handleAll hbatch).isAwaitingReply_iff id

/-- After a batch that is accepted the ids that await a reply (`isAwaitingReply`) are those that did
so before it, and those of its requests whose events keep them: the requests for an action, and the
ones whose method is not understood. Each of them awaits a reply as long as none is sent to it, and
meanwhile each of the three replies is sent when it is asked for, unless the session has ended. -/
theorem recorded_of_feed {c : Client} {bytes : Bytes} {d : Frame.Decoded} {events : List Event}
    (hdecode : Frame.decode c.config.maxMessageSize (c.received ++ bytes) = .ok d)
    (haccepted : (c.feed bytes).2 = .ok events) :
    (∀ id, (c.feed bytes).1.isAwaitingReply id = true ↔
        c.isAwaitingReply id = true ∨
          ∃ document ∈ d.documents, ∃ r, Message.classify document = .ok (.request r) ∧
            Event.keepsId r.method = true ∧ r.id = id) ∧
      ∀ id, (c.feed bytes).1.isAwaitingReply id = true → ∀ more,
        (∀ step ∈ ((c.feed bytes).1.run more).2, step.1.repliedId? step.2 ≠ some id) →
        let later := ((c.feed bytes).1.run more).1
        later.isAwaitingReply id = true ∧
          (later.state ≠ .exited → ∀ op response, op.response? = some response →
            response.id = id → (later.perform op).2 = .done (.ok ())) := by
  refine ⟨fun id => ?_, fun id hawaiting more hnone => ?_⟩
  · rw [isAwaitingReply_feed_iff hdecode haccepted, Message.mem_recordedIds_iff, or_comm]
  · intro later
    -- No reply was sent to it meanwhile, so it awaits one to the end of the run.
    have hlater : later.isAwaitingReply id = true :=
      (run_isAwaitingReply_iff _ more id).mpr (Or.inr ⟨hawaiting, hnone⟩)
    refine ⟨hlater, fun hstate op response hop hid => ?_⟩
    subst hid
    exact (perform_eq_done_iff later hop).mpr ⟨hstate, hlater⟩

/-- A request for an action, whose id is a string. -/
private def question : Json :=
  .object [("id", .string "a"), ("jsonrpc", .string "2.0"),
    ("method", .string "window/showMessageRequest"),
    ("params", .object [("message", .string "hi"), ("type", .number (.integer 3))])]

/-- A request to show a message, with the id 7. The protocol has such messages as notifications
alone. -/
private def notice : Json :=
  .object [("id", .number (.integer 7)), ("jsonrpc", .string "2.0"),
    ("method", .string "window/showMessage"),
    ("params", .object [("message", .string "hi"), ("type", .number (.integer 3))])]

/-- Both requests are decoded by `Frame.decode` as they are, because they are integral and their
members are in order. -/
private theorem decode_request {m : Json} (hm : m ∈ [question, notice]) :
    Frame.decode Frame.defaultLimit (Frame.encode m) = .ok ⟨[m], (Frame.encode m).length⟩ := by
  have hplain : ∀ m ∈ [question, notice],
      m.isIntegral Json.depthLimit = true ∧ m.isOrdered = true := by decide +kernel
  have hsize : ∀ m ∈ [question, notice], (Frame.bodyOf m).length ≤ Frame.defaultLimit ∧
      (Frame.encode m).length ≤ Frame.sizeBound := by decide +kernel
  exact Frame.decode_encode_of_isOrdered (hplain m hm).1 (hplain m hm).2 (hsize m hm).1
    (hsize m hm).2

/-- `recorded_of_feed` for `question`: its id awaits a reply, and still does after the client has
sent a request of its own. -/
theorem question_recorded :
    let c := (new.feed (Frame.encode question)).1
    let later := (c.run [.sendInitialize ⟨none, none, .off⟩]).1
    (new.feed (Frame.encode question)).2 = .ok [.showMessageRequest (.string "a") .info "hi" []] ∧
      c.isAwaitingReply (.string "a") = true ∧ later.isAwaitingReply (.string "a") = true ∧
      (later.perform (.replyToShowMessageRequest (.string "a") none)).2 = .done (.ok ()) := by
  intro c later
  have hdecode := decode_request (m := question) List.mem_cons_self
  have hvalid : (new.receive (Frame.encode question)).validate [question] =
      .ok [.call (.showMessageRequest (.string "a") .info "hi" [])] := rfl
  have hfeed := @feed_of_validate new (Frame.encode question) _ _ hdecode hvalid
  have haccepted : (new.feed (Frame.encode question)).2 =
      .ok [.showMessageRequest (.string "a") .info "hi" []] := congrArg Prod.snd hfeed
  obtain ⟨hrecorded, hkept⟩ := recorded_of_feed (c := new) hdecode haccepted
  have hawaiting : c.isAwaitingReply (.string "a") = true :=
    (hrecorded _).mpr (Or.inr ⟨question, List.mem_cons_self, _, rfl, rfl, rfl⟩)
  -- The request of the client is no reply.
  have hnone : ∀ step ∈ (c.run [.sendInitialize ⟨none, none, .off⟩]).2,
      step.1.repliedId? step.2 ≠ some (.string "a") := by
    intro step hstep
    rw [List.mem_singleton.mp hstep, Operation.repliedId?_of_response? rfl]
    exact nofun
  have hstate : later.state ≠ .exited := by
    simp only [later, c, hfeed]
    exact nofun
  obtain ⟨hlater, hreply⟩ := hkept _ hawaiting _ hnone
  exact ⟨haccepted, hawaiting, hlater, hreply hstate _ _ rfl rfl⟩

/-- The id of `notice`, a request to show a message, is lost: the bytes that carry the request are
accepted, and then no reply to it is awaited. -/
theorem showMessage_request_not_recorded :
    ∃ r, Message.classify notice = .ok (.request r) ∧ r.id = .integer 7 ∧
      Frame.decode new.config.maxMessageSize (new.received ++ Frame.encode notice) =
        .ok ⟨[notice], (Frame.encode notice).length⟩ ∧
      (new.feed (Frame.encode notice)).2 = .ok [.showMessage .info "hi"] ∧
      (new.feed (Frame.encode notice)).1.isAwaitingReply (.integer 7) = false := by
  have hdecode := decode_request (m := notice) (List.mem_cons_of_mem _ List.mem_cons_self)
  have hvalid : (new.receive (Frame.encode notice)).validate [notice] =
      .ok [.call (.showMessage .info "hi")] := rfl
  have hfeed := @feed_of_validate new (Frame.encode notice) _ _ hdecode hvalid
  refine ⟨_, rfl, rfl, hdecode, congrArg Prod.snd hfeed, ?_⟩
  rw [hfeed]
  rfl

end Client

end LspSession
