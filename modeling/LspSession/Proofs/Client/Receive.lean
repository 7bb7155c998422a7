import LspSession.Proofs.Client.Batch
import LspSession.Proofs.Event.Translation

/-!
# `LspSession.Proofs.Client.Receive`: what received bytes can do

The inversion lemmas of receiving. A document that a client handles is one of five things
(`Handled`): a call of the server, or a reply, good or bad, to one of the two requests that a client
sends. A batch is a row of them (`HandledAll`). Bytes that are fed are kept for later, thrown away
with an error, or handled to the end (`Fed`). Every invariant of a session is a case analysis
on these, with an induction for the row, and no invariant looks into the receiver again.
-/

set_option autoImplicit false

namespace LspSession

/-- What `f` gives for the first element stands in front of what it gives for the others. With
`toList` no case is needed for an element that gives nothing. -/
theorem filterMap_cons_eq_append {α β : Type} (f : α → Option β) (a : α) (rest : List α) :
    (a :: rest).filterMap f = (f a).toList ++ rest.filterMap f := by
  rw [List.filterMap_cons]
  cases f a <;> rfl

/-- The mirror image of `filterMap_cons_eq_append`: what `f` gives for the last element stands
behind what it gives for the others. -/
theorem filterMap_concat_eq_append {α β : Type} (f : α → Option β) (front : List α) (a : α) :
    (front ++ [a]).filterMap f = front.filterMap f ++ (f a).toList := by
  rw [List.filterMap_append, filterMap_cons_eq_append, List.filterMap_nil, List.append_nil]

/-- Whether an event is that of a call of the server, and not of a reply to a request of the client.
`initialized`, `shutdownAcked` and their failures are the events of replies. -/
def Event.isCall : Event → Bool
  | .initialized _ | .initializeFailed _ | .shutdownAcked | .shutdownFailed _ => false
  | _ => true

/-- What the event of a call can be, by what `ServerMethod.ofName?` says of its `method`. Of the
parameters it says nothing, because invariants of a session do not depend on them. -/
inductive Event.Translated (id : Option RequestId) (method : String) (params : Option Json) :
    Event → Prop where
  | showMessage (h : ServerMethod.ofName? method = some .showMessage) (severity : Severity)
      (text : String) :
    Translated id method params (.showMessage severity text)
  | logMessage (h : ServerMethod.ofName? method = some .logMessage) (severity : Severity)
      (text : String) :
    Translated id method params (.logMessage severity text)
  | showMessageRequest {known : RequestId} (hid : id = some known)
      (h : ServerMethod.ofName? method = some .showMessageRequest) (severity : Severity)
      (text : String) (actions : List ActionItem) :
    Translated id method params (.showMessageRequest known severity text actions)
  | publishDiagnostics (h : ServerMethod.ofName? method = some .publishDiagnostics)
      (diagnostics : Diagnostics) :
    Translated id method params (.publishDiagnostics diagnostics)
  /-- The method is not understood. -/
  | unsupported (h : ServerMethod.ofName? method = none) :
    Translated id method params (.unsupported id method params)

/-- The event that `ofCall` gives goes with the method of the call, and carries its id where the
event has one to carry. -/
theorem Event.translated_of_ofCall {id : Option RequestId} {method : String}
    {params : Option Json} {event : Event} (h : Event.ofCall id method params = .ok event) :
    Event.Translated id method params event := by
  cases hmethod : ServerMethod.ofName? method with
  | none =>
    rw [ofCall, hmethod] at h
    cases h
    exact .unsupported hmethod
  | some known =>
    rw [ofCall, hmethod] at h
    obtain ⟨document, -, hmeans⟩ := ofMethod_eq_ok_iff.mp h
    cases hmeans with
    | showMessage => exact .showMessage hmethod _ _
    | logMessage => exact .logMessage hmethod _ _
    | showMessageRequest => exact .showMessageRequest rfl hmethod _ _ _
    | publishDiagnostics => exact .publishDiagnostics hmethod _

/-- `ofCall` gives none of the four events that stand for replies. So a server cannot move a session
by a notification. -/
theorem Event.isCall_of_ofCall {id : Option RequestId} {method : String} {params : Option Json}
    {event : Event} (h : Event.ofCall id method params = .ok event) : event.isCall = true := by
  cases Event.translated_of_ofCall h <;> rfl

namespace Client

/-! ### Documents -/

/-- What a document that is handled does to the client, and the event that it gives. There is one
constructor for a call and one for each of the four replies, and each says which request was
pending. -/
inductive Handled (c : Client) : Client → Event → Prop where
  /-- A call of the server. -/
  | call {event : Event} (hcall : event.isCall = true) :
    Handled c (c.track event.requestId?) event
  /-- The server is initialized. -/
  | initialized {id : RequestId} {request : Request} (capabilities : Json)
      (hpending : c.pending.find? id = some ⟨.initialization, request⟩) :
    Handled c
      { c.send initializedNotification.wire with
          pending := c.pending.erase id
          capabilities := some capabilities
          state := .normal }
      (.initialized capabilities)
  /-- The server refused to initialize. -/
  | initializeFailed {id : RequestId} {request : Request} (failure : Failure)
      (hpending : c.pending.find? id = some ⟨.initialization, request⟩) :
    Handled c { c with pending := c.pending.erase id, state := .uninitialized }
      (.initializeFailed failure)
  /-- The server agreed to shut down. -/
  | shutdownAcked {id : RequestId} {request : Request}
      (hpending : c.pending.find? id = some ⟨.shutdown, request⟩) :
    Handled c { c with pending := c.pending.erase id, state := .shutdown } .shutdownAcked
  /-- The server refused to shut down. -/
  | shutdownFailed {id : RequestId} {request : Request} (failure : Failure)
      (hpending : c.pending.find? id = some ⟨.shutdown, request⟩) :
    Handled c { c with pending := c.pending.erase id, state := .normal } (.shutdownFailed failure)

/-- A reply that is interpreted does what a reply to its `kind` of request does. The cases are those
of `interpret`: the kind of the request, and whether the payload is a result or an error. -/
private theorem handled_of_interpret {c : Client} {kind : ClientRequest} {request : Request}
    {response : Response} {incoming : Incoming}
    (hpending : c.pending.find? response.id = some ⟨kind, request⟩)
    (h : interpret kind response = .ok incoming) :
    Handled c (c.apply incoming).1 (c.apply incoming).2 := by
  obtain ⟨id, payload⟩ := response
  cases kind with
  | initialization =>
    cases payload with
    | error failure =>
      cases h
      exact .initializeFailed failure hpending
    -- The result of an initialization has to have capabilities; the result of a shutdown is
    -- ignored.
    | ok result =>
      simp only [interpret] at h
      cases hcapabilities : Malformed.capabilitiesOf result with
      | error fault =>
        rw [hcapabilities] at h
        cases h
      | ok capabilities =>
        rw [hcapabilities] at h
        cases h
        exact .initialized capabilities hpending
  | shutdown =>
    cases payload with
    | error failure =>
      cases h
      exact .shutdownFailed failure hpending
    | ok result =>
      cases h
      exact .shutdownAcked hpending

/-- The inversion of `handle`: a document that is handled is one of the five in `Handled`.
Everything that is true of each of them is true of every document. -/
theorem handled_of_handle {c next : Client} {document : Json} {event : Event}
    (h : c.handle document = .ok (next, event)) : Handled c next event := by
  unfold handle at h
  split at h
  · cases h
  · next incoming hvalid =>
    rw [Except.ok.injEq] at h
    have hnext : next = (c.apply incoming).1 := by rw [h]
    have hevent : event = (c.apply incoming).2 := by rw [h]
    subst hnext hevent
    unfold validateOne at hvalid
    split at hvalid
    · cases hvalid
    · next message _ =>
      -- Both kinds of calls are received in one way, and only a response is correlated.
      have hcall {id : Option RequestId} {method : String} {params : Option Json}
          (hreceived : receiveCall id method params = .ok incoming) :
          Handled c (c.apply incoming).1 (c.apply incoming).2 := by
        unfold receiveCall at hreceived
        split at hreceived
        · next event hevent =>
          cases hreceived
          rw [apply_call]
          exact .call (Event.isCall_of_ofCall hevent)
        · cases hreceived
      cases message with
      | request r => exact hcall hvalid
      | notification n => exact hcall hvalid
      | response r =>
        -- The document stands alone, so no id has been answered and the table of requests decides.
        simp only [understand, correlate, answeredKind?, List.contains_nil, Bool.false_eq_true,
          if_false] at hvalid
        cases hfound : c.pending.find? r.id with
        | none =>
          rw [hfound] at hvalid
          cases hvalid
        | some pending =>
          obtain ⟨kind, request⟩ := pending
          rw [hfound] at hvalid
          simp only [Option.map_some] at hvalid
          cases hmeaning : interpret kind r with
          | error fault =>
            rw [hmeaning] at hvalid
            cases hvalid
          | ok meaning =>
            rw [hmeaning] at hvalid
            cases hvalid
            exact handled_of_interpret hfound hmeaning

/-- Documents handled one after another, each by the client that the one before it left, and their
events in the same order. -/
inductive HandledAll : Client → Client → List Event → Prop where
  | nil (c : Client) : HandledAll c c []
  | cons {c next last : Client} {event : Event} {events : List Event}
      (head : Handled c next event) (tail : HandledAll next last events) :
    HandledAll c last (event :: events)

/-- The inversion of `handleAll`: documents that are handled are a row of documents in `HandledAll`.
The induction is on the documents. -/
theorem handledAll_of_handleAll {c last : Client} {documents : List Json} {events : List Event}
    (h : c.handleAll documents = .ok (last, events)) : HandledAll c last events := by
  induction documents generalizing c events with
  | nil =>
    cases h
    exact .nil _
  | cons document rest ih =>
    unfold handleAll at h
    split at h
    · cases h
    · next next event hhead =>
      split at h
      · cases h
      · next last' events' htail =>
        cases h
        exact .cons (handled_of_handle hhead) (ih htail)

/-- The fault of a document is no fault of a frame: `handle` never gives `ProtocolError.frame`,
which only `Frame.decode` is the source of. -/
theorem handle_ne_frame (c : Client) (document : Json) (e : FrameError) :
    c.handle document ≠ .error (.frame e) := by
  have hcall (id : Option RequestId) (method : String) (params : Option Json) :
      receiveCall id method params ≠ .error (.frame e) := by
    unfold receiveCall
    cases Event.ofCall id method params <;> simp
  intro h
  unfold handle at h
  split at h
  · next e' herror =>
    cases h
    unfold validateOne at herror
    split at herror
    · cases herror
    · next message _ =>
      -- A call can only be malformed, and a response can also be unexpected.
      cases message with
      | request r => exact hcall _ _ _ herror
      | notification n => exact hcall _ _ _ herror
      | response r =>
        simp only [understand, correlate] at herror
        split at herror
        · cases herror
        · next kind _ =>
          cases hmeaning : interpret kind r with
          | error fault =>
            rw [hmeaning] at herror
            cases herror
          | ok incoming =>
            rw [hmeaning] at herror
            cases herror
  · cases h

/-- The fault of a batch is no fault of a frame, since `handleAll` gives the error of one of its
documents. So an error says whether bytes or documents were at fault. -/
theorem handleAll_ne_frame (c : Client) (documents : List Json) (e : FrameError) :
    c.handleAll documents ≠ .error (.frame e) := by
  induction documents generalizing c with
  | nil => exact fun h => nomatch h
  | cons document rest ih =>
    intro h
    unfold handleAll at h
    split at h
    -- The error is that of the first document, or that of the rest.
    · next e' herror =>
      cases h
      exact handle_ne_frame c document e herror
    · next next event hhead =>
      split at h
      · next e' herror =>
        cases h
        exact ih next herror
      · cases h

/-- A document touches neither the `config` of the client nor the bytes `received`. These two decide
what the bytes to come are decoded to. -/
theorem Handled.kept {c next : Client} {event : Event} (h : Handled c next event) :
    next.config = c.config ∧ next.received = c.received := by
  cases h <;> exact ⟨rfl, rfl⟩

/-- A batch touches neither the `config` of the client nor the bytes `received`, because none of its
documents does. -/
theorem HandledAll.kept {c last : Client} {events : List Event} (h : HandledAll c last events) :
    last.config = c.config ∧ last.received = c.received := by
  induction h with
  | nil c => exact ⟨rfl, rfl⟩
  | cons head tail ih => exact ⟨ih.1.trans head.kept.1, ih.2.trans head.kept.2⟩

/-- A document does not end the session. A reply leads to one of the places before the end, and a
call leads nowhere. -/
theorem Handled.state_ne_exited {c next : Client} {event : Event} (h : Handled c next event)
    (hc : c.state ≠ .exited) : next.state ≠ .exited := by
  cases h with
  | call => exact hc
  | initialized | initializeFailed | shutdownAcked | shutdownFailed => exact nofun

/-- A batch does not end the session, because none of its documents does. Only the client itself
can, by `sendExit`. -/
theorem HandledAll.state_ne_exited {c last : Client} {events : List Event}
    (h : HandledAll c last events) (hc : c.state ≠ .exited) : last.state ≠ .exited := by
  induction h with
  | nil c => exact hc
  | cons head tail ih => exact ih (head.state_ne_exited hc)

/-! ### Bytes -/

/-- A client that keeps nothing has nothing to throw away, so `discard` leaves it as it is. -/
theorem discard_of_received_nil {c : Client} (h : c.received = []) : c.discard = c := by
  unfold discard
  rw [← h]

/-- A client that has thrown away what it received means by documents what it meant before, since
`validate` looks at `pending` alone. -/
theorem validate_discard (c : Client) (documents : List Json) :
    c.discard.validate documents = c.validate documents := by
  -- The induction needs every list of answered ids, because a response adds its own.
  have hfrom : ∀ answered : List RequestId,
      c.discard.validateFrom answered documents = c.validateFrom answered documents := by
    induction documents with
    | nil => intro answered; rfl
    | cons document rest ih =>
      intro answered
      have hone : c.discard.validateOne answered document = c.validateOne answered document :=
        validateOne_congr (fun _ => rfl) document
      simp only [validateFrom, hone, ih]
  exact hfrom []

/-- `feed` where decoding fails, in terms of the bytes kept and fed together: bytes that stop short
are kept and give no events, all others are thrown away with the error. -/
theorem feed_of_error {c : Client} {bytes : Bytes} {e : FrameError}
    (h : Frame.decode c.config.maxMessageSize (c.received ++ bytes) = .error e) :
    c.feed bytes =
      if e.isIncomplete then (c.receive bytes, .ok []) else (c.discard, .error (.frame e)) := by
  have hdecode : Frame.decode (c.receive bytes).config.maxMessageSize (c.receive bytes).received =
      .error e := h
  unfold feed process
  rw [hdecode]
  rfl

/-- `feed` where decoding succeeds: the documents are handled as one batch by the client that keeps
nothing, and after an error that client is what is left. -/
theorem feed_of_decode {c : Client} {bytes : Bytes} {d : Frame.Decoded}
    (h : Frame.decode c.config.maxMessageSize (c.received ++ bytes) = .ok d) :
    c.feed bytes =
      match c.discard.handleAll d.documents with
      | .error e => (c.discard, .error e)
      | .ok (last, events) => (last, .ok events) := by
  have hdecode : Frame.decode (c.receive bytes).config.maxMessageSize (c.receive bytes).received =
      .ok d := h
  have hrest : (c.received ++ bytes).drop d.consumed = [] := by
    rw [Frame.consumed_of_decode h, List.drop_length]
  unfold feed process
  -- The batch is validated before the bytes are thrown away, which makes no difference to it.
  rw [hdecode, handleAll_eq, validate_discard]
  have hvalidate : (c.receive bytes).validate d.documents = c.validate d.documents := by
    rw [← validate_discard (c.receive bytes), ← validate_discard c]
    rfl
  simp only [hvalidate]
  cases c.validate d.documents with
  | error e => rfl
  | ok incoming =>
    have hclient : { c.receive bytes with
        received := (c.receive bytes).received.drop d.consumed } = c.discard := by
      show { c with received := (c.received ++ bytes).drop d.consumed } = c.discard
      rw [hrest]
      rfl
    simp only [hclient]
    rfl

/-- What feeding bytes to a client comes to. The four constructors differ in what `Frame.decode`
makes of the bytes and `handleAll` of the documents, and each says which client and which result
there is then. -/
inductive Fed (c : Client) (bytes : Bytes) :
    Client → Except ProtocolError (List Event) → Prop where
  /-- A frame stops short, and the bytes are kept. -/
  | waiting {expected : Option Nat} {actual : Nat}
      (hdecode : Frame.decode c.config.maxMessageSize (c.received ++ bytes) =
        .error (.incomplete expected actual)) :
    Fed c bytes (c.receive bytes) (.ok [])
  /-- A frame is at fault. -/
  | misframed {e : FrameError}
      (hdecode : Frame.decode c.config.maxMessageSize (c.received ++ bytes) = .error e)
      (hfinal : e.isIncomplete = false) :
    Fed c bytes c.discard (.error (.frame e))
  /-- A document of the batch is at fault. -/
  | rejected {d : Frame.Decoded} {e : ProtocolError}
      (hdecode : Frame.decode c.config.maxMessageSize (c.received ++ bytes) = .ok d)
      (hbatch : c.discard.handleAll d.documents = .error e) :
    Fed c bytes c.discard (.error e)
  /-- Every document is handled. -/
  | accepted {d : Frame.Decoded} {last : Client} {events : List Event}
      (hdecode : Frame.decode c.config.maxMessageSize (c.received ++ bytes) = .ok d)
      (hbatch : c.discard.handleAll d.documents = .ok (last, events)) :
    Fed c bytes last (.ok events)

/-- The inversion of `feed`: it comes to one of the four in `Fed`, and no hypothesis on the client
or on the bytes is needed. -/
theorem fed_feed (c : Client) (bytes : Bytes) : Fed c bytes (c.feed bytes).1 (c.feed bytes).2 := by
  cases hdecode : Frame.decode c.config.maxMessageSize (c.received ++ bytes) with
  | error e =>
    rw [feed_of_error hdecode]
    -- Only bytes that stop short are kept, and then the error says how many are missing.
    cases hwhole : e.isIncomplete with
    | true =>
      cases e with
      | incomplete expected actual => exact .waiting hdecode
      | _ => cases hwhole
    | false => exact .misframed hdecode hwhole
  | ok d =>
    rw [feed_of_decode hdecode]
    cases hbatch : c.discard.handleAll d.documents with
    | error e => exact .rejected hdecode hbatch
    | ok result => exact .accepted hdecode hbatch

/-- Bytes from the server do not end the session, whatever they are. Those that are kept or thrown
away leave the place of the session alone. -/
theorem Fed.state_ne_exited {c next : Client} {bytes : Bytes}
    {result : Except ProtocolError (List Event)} (h : Fed c bytes next result)
    (hc : c.state ≠ .exited) : next.state ≠ .exited := by
  cases h with
  | waiting | misframed | rejected => exact hc
  | accepted hdecode hbatch => exact (handledAll_of_handleAll hbatch).state_ne_exited hc

end Client

end LspSession
