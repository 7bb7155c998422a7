import LspSession.Proofs.Frame.RoundTrip
import LspSession.Proofs.Pump.Turn

/-!
# `LspSession.Proofs.Pump.Delivery`: a pump hands out what the server sent

A pump reads a stream in pieces, replies to requests between them and writes whenever something is
queued. `nextEvents_of_feed` says that none of this shows in the events: whoever asks for one event
after another gets those that the whole stream gives to the client at once, and after them the end.
Each event of a request has been replied to exactly once by then, in order, and no reply is awaited
any more.

The events of one piece are at hand together, and `nextEvents_backlog` is about handing them out.
The ids of their requests differ, so a reply to one takes no other's id. From piece to piece the
client is followed by its core, which replies and writes do not touch.
-/

set_option autoImplicit false

namespace LspSession

/-- Documents that are each read from their own text are taken in as one batch if they are found
valid, by a client that keeps nothing. It is `Client.feed` of what a server writes with
`Frame.encodeAll`. -/
theorem Client.feed_encodeAll {c : Client} {documents : List Json} {incoming : List Incoming}
    (hempty : c.received = [])
    (hplain : ∀ m ∈ documents, m.isIntegral Json.depthLimit = true ∧ m.isOrdered = true ∧
      (Frame.bodyOf m).length ≤ c.config.maxMessageSize)
    (hfits : (Frame.encodeAll documents).length ≤ Frame.sizeBound)
    (hvalid : c.validate documents = .ok incoming) :
    c.feed (Frame.encodeAll documents) =
      ((c.discard.applyAll incoming).1, .ok (c.discard.applyAll incoming).2) := by
  have hdecode : Frame.decode c.config.maxMessageSize (c.received ++ Frame.encodeAll documents) =
      .ok ⟨documents, (Frame.encodeAll documents).length⟩ := by
    rw [hempty, List.nil_append]
    refine Frame.decode_encodeAll (fun m hm => ?_) (fun m hm => (hplain m hm).2.2) hfits
    exact Json.ofBytes_render_of_isOrdered (hplain m hm).1 (hplain m hm).2.1
  refine feed_of_validate hdecode ?_
  rw [validate_receive, validate_discard]
  exact hvalid

namespace Stream

/-- The chunks of a `Stream` hold bytes, its input ends after the last of them, and there is room
for whatever is written. So neither a read nor a write of it fails. -/
structure Faultless (s : Stream) : Prop where
  ne_nil : ∀ chunk ∈ s.input, chunk ≠ []
  readError : s.readError = none
  room : s.room = none

/-- A `Faultless` stream takes all that is written to it, in one write. -/
theorem Faultless.write_eq {s : Stream} (h : s.Faultless) (bytes : Bytes) :
    Transport.write s bytes = (.ok (), { s with written := s.written ++ bytes }) := by
  show s.write bytes = _
  unfold write
  rw [h.room]

/-- A faultless stream gives the next of its bytes until none are left. A chunk that fits into one
read comes as it is; a longer one comes in pieces of `readSize`. -/
theorem Faultless.read_cases {s : Stream} (h : s.Faultless) :
    s.input = [] ∧ Transport.read s = (.ended, s) ∨
      ∃ bytes rest, bytes ≠ [] ∧ s.input.flatten = bytes ++ rest.flatten ∧
        Transport.read s = (.bytes bytes, { s with input := rest }) ∧
        Faultless { s with input := rest } ∧
        ∀ chunk more, s.input = chunk :: more → chunk.length ≤ readSize →
          bytes = chunk ∧ rest = more := by
  have hread : Transport.read s = s.read := rfl
  rw [hread]
  unfold read
  cases hinput : s.input with
  | nil =>
    refine Or.inl ⟨rfl, ?_⟩
    rw [h.readError]
  | cons chunk rest =>
    have hchunks := h.ne_nil
    rw [hinput, List.forall_mem_cons] at hchunks
    obtain ⟨hchunk, hrest⟩ := hchunks
    obtain ⟨byte, more, rfl⟩ := List.exists_cons_of_ne_nil hchunk
    refine Or.inr ?_
    simp only [Bytes.lengthUpTo_eq]
    split
    · next hlong =>
      -- The chunk is longer than a read, so its end is left for the next one.
      have htail : (byte :: more).drop readSize ≠ [] := by
        intro hnil
        have hlength := congrArg List.length hnil
        rw [List.length_drop, List.length_nil] at hlength
        omega
      refine ⟨_, _, ?_, ?_, rfl, ⟨List.forall_mem_cons.mpr ⟨htail, hrest⟩, h.readError, h.room⟩,
        ?_⟩
      · exact List.cons_ne_nil _ _
      · rw [List.flatten_cons, List.flatten_cons, ← List.append_assoc, List.take_append_drop]
      · intro chunk more' hcons hshort
        cases hcons
        omega
    · refine ⟨_, _, hchunk, List.flatten_cons, rfl, ⟨hrest, h.readError, h.room⟩, ?_⟩
      intro chunk more' hcons hshort
      cases hcons
      exact ⟨rfl, rfl⟩

end Stream

namespace Pump

/-! ### Asking for events -/

section

variable {σ : Type} [Transport σ]

/-- Asks for so many events, one after another, and keeps what each `nextEvent` came to, errors
included. -/
def nextEvents : Nat → Pump σ → Pump σ × List (Polled Event)
  | 0, p => (p, [])
  | n + 1, p =>
    let (q, result) := p.nextEvent
    let (last, results) := nextEvents n q
    (last, result :: results)

/-- The first of several events, by `nextEvent`, and then the others from where it leaves the pump.
-/
theorem nextEvents_succ (n : Nat) (p : Pump σ) :
    p.nextEvents (n + 1) =
      ((p.nextEvent.1.nextEvents n).1, p.nextEvent.2 :: (p.nextEvent.1.nextEvents n).2) := rfl

/-- Asking may be interrupted anywhere: `m + n` events are `m` events and then `n` more. -/
theorem nextEvents_add (m n : Nat) (p : Pump σ) :
    p.nextEvents (m + n) =
      (((p.nextEvents m).1.nextEvents n).1,
        (p.nextEvents m).2 ++ ((p.nextEvents m).1.nextEvents n).2) := by
  induction m generalizing p with
  | zero => rw [Nat.zero_add]; rfl
  | succ m ih =>
    rw [Nat.add_right_comm, nextEvents_succ, ih, nextEvents_succ]
    rfl

/-- The next event is what the next turn hands out, or comes after it. This is `waitFor` with a test
that every event meets. -/
theorem nextEvent_eq (p : Pump σ) :
    p.nextEvent =
      match p.turn with
      | (q, .event e) => (q, .ready (.ok e))
      | (q, .again) => q.nextEvent
      | (q, .failed e) => (q, .ready (.error e))
      | (q, .pending) => (q, .pending) := by
  unfold nextEvent waitFor
  rw [waitFrom_eq]
  cases p.turn with
  | mk q turn => cases turn <;> rfl

/-- A turn that only reads (`.again`) makes no difference to what comes: the events are those of the
pump behind it. -/
theorem nextEvents_of_again {p q : Pump σ} (h : p.turn = (q, .again)) (n : Nat) :
    p.nextEvents (n + 1) = q.nextEvents (n + 1) := by
  have hnext : p.nextEvent = q.nextEvent := by rw [nextEvent_eq p, h]
  rw [nextEvents_succ, nextEvents_succ, hnext]

/-- What stays the same once it has come is all that comes. It is used at the end of a stream, which
is reported again and again. -/
theorem nextEvents_of_stays {p q : Pump σ} {result : Polled Event}
    (hfirst : p.nextEvent = (q, result)) (hstays : q.nextEvent = (q, result)) (n : Nat) :
    p.nextEvents (n + 1) = (q, List.replicate (n + 1) result) := by
  induction n generalizing p with
  | zero =>
    rw [nextEvents_succ, hfirst]
    rfl
  | succ n ih =>
    rw [nextEvents_succ, hfirst, List.replicate_succ]
    simp only [ih hstays]

end

/-! ### The events at hand -/

/-- The bytes that a pump has written, with those that are queued in its client. A write moves bytes
from the one to the other and leaves `sent` alone. -/
def sent (p : Pump Stream) : Bytes := p.transport.written ++ p.client.outgoing

/-- A pump that has sent messages and has read nothing in between. Its client has the same `core`,
so it will make of the rest of the stream what it would have made before. -/
structure Relayed (p q : Pump Stream) (messages : List Message) : Prop where
  sent_eq : q.sent = p.sent ++ Message.frames messages
  core_eq : q.client.core = p.client.core
  input_eq : q.transport.input = p.transport.input
  faultless : q.transport.Faultless

namespace Relayed

/-- A pump that has done nothing has `Relayed` nothing. -/
theorem refl {p : Pump Stream} (ht : p.transport.Faultless) : Relayed p p [] where
  sent_eq := (List.append_nil _).symm
  core_eq := rfl
  input_eq := rfl
  faultless := ht

/-- Messages that were `Relayed` one after another, through a pump in between. -/
theorem trans {p q r : Pump Stream} {first second : List Message} (h : Relayed p q first)
    (h' : Relayed q r second) : Relayed p r (first ++ second) where
  sent_eq := by rw [h'.sent_eq, h.sent_eq, Message.frames_append, List.append_assoc]
  core_eq := h'.core_eq.trans h.core_eq
  input_eq := h'.input_eq.trans h.input_eq
  faultless := h'.faultless

/-- Sending messages leaves the client in the `state` in which it was. -/
theorem state_eq {p q : Pump Stream} {messages : List Message} (h : Relayed p q messages) :
    q.client.state = p.client.state := (congrArg Client.state h.core_eq :)

end Relayed

/-- Writing to a `Faultless` stream succeeds and sends nothing new: what is written was queued
before. -/
theorem Flushed.relayed {p q : Pump Stream} {result : Except PumpError Unit}
    (h : Flushed p q result) (ht : p.transport.Faultless) : result = .ok () ∧ Relayed p q [] := by
  cases h with
  | idle hnone => exact ⟨rfl, .refl ht⟩
  | wrote journal hsome hwrite =>
    rw [ht.write_eq] at hwrite
    cases hwrite
    refine ⟨rfl, ?_, rfl, rfl, ht.ne_nil, ht.readError, ht.room⟩
    show p.transport.written ++ p.client.outgoing ++ [] = p.sent ++ []
    rfl
  | failed hwrite =>
    rw [ht.write_eq] at hwrite
    cases hwrite

/-- Dealing with an event sends its `Event.response?`, if its request awaits one, by queueing it in
the client. -/
theorem Answered.relayed {p q : Pump Stream} {event : Event} (h : Answered p event q (.ok ()))
    (ht : p.transport.Faultless) : Relayed p q (event.response?.toList.map .response) := by
  have htransport := h.kept.1
  refine ⟨?_, ?_, by rw [htransport], by rw [htransport]; exact ht⟩
  · rw [sent, htransport, h.client_eq, Client.outgoing_afterReply, ← List.append_assoc]
    rfl
  · rw [h.client_eq, Client.core_afterReply]

/-- The first event of the `backlog` is handed out if its request awaits a reply, which is sent. Of
the ids that are awaited only that of this request is taken out. -/
theorem turn_of_backlog {p : Pump Stream} {event : Event} {rest : List Event}
    (hbacklog : p.backlog = event :: rest) (ht : p.transport.Faultless)
    (hstate : p.client.state ≠ .exited)
    (hawaiting : ∀ id, event.requestId? = some id → p.client.isAwaitingReply id = true) :
    ∃ q, p.turn = (q, .event event) ∧ q.backlog = rest ∧
      Relayed p q (event.response?.toList.map .response) ∧
      ∀ id, q.client.isAwaitingReply id = true ↔
        p.client.isAwaitingReply id = true ∧ event.requestId? ≠ some id := by
  have hturned := turned_turn p
  cases hturn : p.turn with
  | mk q turn =>
    rw [hturn] at hturned
    cases hturned with
    | event hcons hanswered hflushed =>
      rename_i r
      rw [hbacklog] at hcons
      cases hcons
      have hreplied := hanswered.relayed ht
      obtain ⟨-, hwritten⟩ := hflushed.relayed hreplied.faultless
      obtain ⟨hclient, hrest⟩ := hflushed.kept
      refine ⟨q, rfl, hrest.trans hanswered.kept.2, ?_, fun id => ?_⟩
      · have hboth := hreplied.trans hwritten
        rw [List.append_nil] at hboth
        exact ⟨hboth.sent_eq, hboth.core_eq, hboth.input_eq, hboth.faultless⟩
      · rw [hclient]
        show r.client.isAwaitingReply id = true ↔ _
        rw [hanswered.client_eq, Client.isAwaitingReply_afterReply_iff]
    | refused hcons hanswered =>
      rw [hbacklog] at hcons
      cases hcons
      obtain ⟨id, hid, hnone, -, -⟩ := hanswered.of_error hstate
      rw [hawaiting id hid] at hnone
      cases hnone
    | unwritten hcons hanswered hflushed =>
      rw [hbacklog] at hcons
      cases hcons
      cases (hflushed.relayed (hanswered.relayed ht).faultless).1
    | unread hnil | fetched hnil =>
      rw [hbacklog] at hnil
      cases hnil

/-- The events of the `backlog` are handed out one after another if their requests differ and await
replies. These are sent, and then none of them is awaited any more. -/
theorem nextEvents_backlog {p : Pump Stream} (ht : p.transport.Faultless)
    (hstate : p.client.state ≠ .exited)
    (hawaiting : ∀ id ∈ p.backlog.filterMap Event.requestId?, p.client.isAwaitingReply id = true)
    (hdistinct : (p.backlog.filterMap Event.requestId?).Nodup) :
    ∃ q, p.nextEvents p.backlog.length = (q, p.backlog.map fun event => .ready (.ok event)) ∧
      q.backlog = [] ∧ Relayed p q ((p.backlog.filterMap Event.response?).map .response) ∧
      ∀ id, q.client.isAwaitingReply id = true ↔
        p.client.isAwaitingReply id = true ∧ id ∉ p.backlog.filterMap Event.requestId? := by
  generalize hbacklog : p.backlog = batch at hawaiting hdistinct ⊢
  induction batch generalizing p with
  | nil => exact ⟨p, rfl, hbacklog, .refl ht, fun id => (and_iff_left List.not_mem_nil).symm⟩
  | cons event rest ih =>
    rw [filterMap_cons_eq_append] at hawaiting hdistinct
    obtain ⟨-, hrest, hother⟩ := List.nodup_append.mp hdistinct
    obtain ⟨q, hturn, hq, hrelayed, hset⟩ := turn_of_backlog hbacklog ht hstate fun id hid =>
      hawaiting id (List.mem_append_left _ (Option.mem_toList.mpr hid))
    -- The reply took the id of this event's request only, and the others have other ids.
    have hstill : ∀ id ∈ rest.filterMap Event.requestId?, q.client.isAwaitingReply id = true := by
      intro id hid
      refine (hset id).mpr ⟨hawaiting id (List.mem_append_right _ hid), fun hsame => ?_⟩
      exact hother id (Option.mem_toList.mpr hsame) id hid rfl
    obtain ⟨last, hevents, hlast, hmore, hnone⟩ :=
      ih hrelayed.faultless (hrelayed.state_eq ▸ hstate) hq hstill hrest
    refine ⟨last, ?_, hlast, ?_, fun id => ?_⟩
    · rw [List.length_cons, nextEvents_succ, nextEvent_eq, hturn]
      simp only [hevents, List.map_cons]
    · rw [filterMap_cons_eq_append, List.map_append]
      exact hrelayed.trans hmore
    · rw [hnone, hset, filterMap_cons_eq_append, List.mem_append, not_or,
        Option.mem_toList, and_assoc]

/-! ### The stream -/

/-- A pump whose client has been fed bytes that were read: their events are at hand, their messages
are queued, and their requests await replies. -/
structure Arrived (p q : Pump Stream) (mid : Client) (events : List Event) (rest : List Bytes) :
    Prop where
  backlog_eq : q.backlog = events
  core_eq : q.client.core = mid.core
  sent_eq : q.sent = p.sent ++ Message.frames (events.filterMap Event.message?)
  isAwaitingReply_iff : ∀ id, q.client.isAwaitingReply id = true ↔
    id ∈ events.filterMap Event.requestId? ∨ p.client.isAwaitingReply id = true
  input_eq : q.transport.input = rest
  faultless : q.transport.Faultless

/-- A turn with an empty `backlog` is a read that follows on a write. Over a faultless stream the
write does not fail. -/
theorem turn_of_empty {p : Pump Stream} (hbacklog : p.backlog = []) (ht : p.transport.Faultless) :
    ∃ r, Flushed p r (.ok ()) ∧ Fetched r p.turn.1 p.turn.2 := by
  have hturned := turned_turn p
  generalize p.turn.1 = q at hturned
  generalize p.turn.2 = turn at hturned
  cases hturned with
  | event hcons | refused hcons | unwritten hcons =>
    rw [hbacklog] at hcons
    cases hcons
  | unread hnil hflushed => cases (hflushed.relayed ht).1
  | fetched hnil hflushed hfetched => exact ⟨_, hflushed, hfetched⟩

/-- While there is input, the next of its bytes are read and fed to the client. A chunk that fits
into one read comes as it is. -/
theorem turn_of_input {p : Pump Stream} (hbacklog : p.backlog = []) (ht : p.transport.Faultless)
    (hinput : p.transport.input ≠ []) :
    ∃ bytes rest, bytes ≠ [] ∧ p.transport.input.flatten = bytes ++ rest.flatten ∧
      (∀ chunk more, p.transport.input = chunk :: more → chunk.length ≤ readSize →
        bytes = chunk ∧ rest = more) ∧
      ∀ mid events, p.client.feed bytes = (mid, .ok events) →
        ∃ q, p.turn = (q, .again) ∧ Arrived p q mid events rest := by
  obtain ⟨r, hflushed, hfetched⟩ := turn_of_empty hbacklog ht
  obtain ⟨-, hrelayed⟩ := hflushed.relayed ht
  obtain ⟨hclient, hkept⟩ := hflushed.kept
  rcases hrelayed.faultless.read_cases with
    ⟨hnone, -⟩ | ⟨bytes, rest, hbytes, hflat, hread, hrest, hfits⟩
  · rw [hrelayed.input_eq] at hnone
    exact absurd hnone hinput
  · rw [hrelayed.input_eq] at hflat hfits
    refine ⟨bytes, rest, hbytes, hflat, hfits, fun mid events hfeed => ?_⟩
    obtain ⟨hresult, hcore⟩ : (r.client.feed bytes).2 = .ok events ∧
        (r.client.feed bytes).1.core = mid.core := by
      have hfed := Client.feed_core hrelayed.core_eq bytes
      rw [hfeed] at hfed
      exact hfed
    generalize hnext : p.turn = next at hfetched
    obtain ⟨q, turn⟩ := next
    -- The bytes that were read are fed without a fault, which excludes the two other outcomes.
    cases hfetched with
    | dry hdry hturn =>
      rw [hread] at hdry
      cases hdry
      cases hturn
    | faulty journal hbytes' herror =>
      rw [hread] at hbytes'
      cases hbytes'
      rw [hresult] at herror
      cases herror
    | fed journal hbytes' hok =>
      rw [hread] at hbytes'
      cases hbytes'
      rw [hresult] at hok
      cases hok
      have hperformed : Client.Performed r.client (.feed bytes) (r.client.feed bytes).1
          (.fed (.ok events)) := by
        rw [← hresult]
        exact Client.performed_perform r.client (.feed bytes)
      have hqueued : (r.client.feed bytes).1.outgoing =
          r.client.outgoing ++ Message.frames (events.filterMap Event.message?) :=
        hperformed.drained_append
      have hsame (id : RequestId) : r.client.isAwaitingReply id = p.client.isAwaitingReply id := by
        rw [hclient]
        rfl
      refine ⟨_, rfl, ?_, hcore, ?_, fun id => ?_, rfl, hrest⟩
      · rw [hkept, hbacklog]
        rfl
      · show r.transport.written ++ (r.client.feed bytes).1.outgoing = _
        rw [hqueued, ← List.append_assoc]
        show r.sent ++ _ = _
        rw [hrelayed.sent_eq]
        exact congrArg (· ++ _) (List.append_nil _)
      · rw [hperformed.isAwaitingReply_iff, Client.Operation.repliedId?_of_response? rfl, hsame]
        exact or_congr_right (and_iff_left (Option.some_ne_none id).symm)

/-- Once there is no `input` the end has come, and it comes again. The client has written all that
it had queued by then. -/
theorem nextEvents_of_input_nil {p : Pump Stream} (hbacklog : p.backlog = [])
    (ht : p.transport.Faultless) (hinput : p.transport.input = []) :
    ∃ q, (∀ n, p.nextEvents (n + 1) = (q, List.replicate (n + 1) (.ready (.error .eof)))) ∧
      q.transport.written = p.sent ∧ q.client = { p.client with outgoing := [] } := by
  -- The first time the queued bytes are written, and after that nothing is queued.
  have hend {p : Pump Stream} (hbacklog : p.backlog = []) (ht : p.transport.Faultless)
      (hinput : p.transport.input = []) :
      ∃ q, Flushed p q (.ok ()) ∧ Relayed p q [] ∧
        p.nextEvent = (q, .ready (.error .eof)) := by
    obtain ⟨q, hflushed, hfetched⟩ := turn_of_empty hbacklog ht
    obtain ⟨-, hrelayed⟩ := hflushed.relayed ht
    refine ⟨q, hflushed, hrelayed, ?_⟩
    rcases hrelayed.faultless.read_cases with ⟨-, hread⟩ | ⟨bytes, rest, hbytes, hflat, -⟩
    · generalize hnext : p.turn = next at hfetched
      obtain ⟨last, turn⟩ := next
      cases hfetched with
      | dry hdry hturn =>
        rw [hread] at hdry
        cases hdry
        cases hturn
        rw [nextEvent_eq, hnext]
      | faulty journal hdry | fed journal hdry =>
        rw [hread] at hdry
        cases hdry
    · rw [hrelayed.input_eq, hinput, List.flatten_nil, eq_comm, List.append_eq_nil_iff] at hflat
      exact absurd hflat.1 hbytes
  obtain ⟨q, hflushed, hrelayed, hfirst⟩ := hend hbacklog ht hinput
  obtain ⟨hclient, hkept⟩ := hflushed.kept
  have hnone : q.client.outgoing = [] := by rw [hclient]
  obtain ⟨r, hidle, -, hsecond⟩ := hend (hkept.trans hbacklog) hrelayed.faultless
    (hrelayed.input_eq.trans hinput)
  have hstays : r = q := by
    cases hidle with
    | idle => rfl
    | wrote journal hsome => exact absurd hnone hsome
  rw [hstays] at hsecond
  refine ⟨q, nextEvents_of_stays hfirst hsecond, ?_, hclient⟩
  have hsent := hrelayed.sent_eq
  rw [sent, hnone, List.append_nil] at hsent
  exact hsent.trans (List.append_nil _)

/-- A pump between two pieces of a stream: nothing is at hand or awaited, and what is left of the
stream leads its client to the core of the last one, with the events that are still to come. -/
structure Between (p : Pump Stream) (last : Client) (events : List Event) : Prop where
  backlog_eq : p.backlog = []
  faultless : p.transport.Faultless
  settled : p.client.Settled
  state_ne : p.client.state ≠ .exited
  isAwaitingReply_eq : ∀ id, p.client.isAwaitingReply id = false
  absorbs : ∃ reached, p.client.Absorbs p.transport.input.flatten reached events ∧
    reached.core = last.core
  nodup : (events.filterMap Event.requestId?).Nodup

/-- The messages that a pump sends for the events of one piece: first those of `Event.message?`, by
the client, and then the responses, one by one. -/
def pieceMessages (events : List Event) : List Message :=
  events.filterMap Event.message? ++ (events.filterMap Event.response?).map .response

/-- The responses among `pieceMessages` are those to its events, and the other messages go with
events. So the two kinds can be told apart in what was written. -/
theorem filter_pieceMessages (events : List Event) :
    (pieceMessages events).filter Message.isResponse =
        (events.filterMap Event.response?).map .response ∧
      (pieceMessages events).filter (!·.isResponse) = events.filterMap Event.message? := by
  have hothers : ∀ message ∈ events.filterMap Event.message?, message.isResponse = false :=
    fun message hmessage => Event.isResponse_of_mem_messages hmessage
  have hresponses : ∀ message ∈ (events.filterMap Event.response?).map Message.response,
      message.isResponse = true := by
    intro message hmessage
    obtain ⟨response, -, rfl⟩ := List.mem_map.mp hmessage
    rfl
  rw [pieceMessages, List.filter_append, List.filter_append]
  refine ⟨?_, ?_⟩
  · rw [List.filter_eq_nil_iff.mpr fun m hm => by rw [hothers m hm]; exact Bool.false_ne_true,
      List.filter_eq_self.mpr hresponses, List.nil_append]
  · rw [List.filter_eq_self.mpr fun m hm => by rw [hothers m hm]; rfl,
      List.filter_eq_nil_iff.mpr fun m hm => by rw [hresponses m hm]; exact Bool.false_ne_true,
      List.append_nil]

/-- While there is input, a piece of it is read and its events are handed out, and the pump is
`Between` two pieces again, with less input. -/
theorem Between.piece {p : Pump Stream} {last : Client} {events : List Event}
    (h : Between p last events) (hinput : p.transport.input ≠ []) :
    ∃ r early late, early ++ late = events ∧ Between r last late ∧
      r.transport.input.flatten.length < p.transport.input.flatten.length ∧
      r.sent = p.sent ++ Message.frames (pieceMessages early) ∧
      ∀ n, p.nextEvents (early.length + (n + 1)) =
        ((r.nextEvents (n + 1)).1,
          (early.map fun event => .ready (.ok event)) ++ (r.nextEvents (n + 1)).2) := by
  obtain ⟨bytes, rest, hbytes, hflat, -, hturn⟩ := turn_of_input h.backlog_eq h.faultless hinput
  obtain ⟨whole, hwhole, hend⟩ := h.absorbs
  rw [hflat, Client.absorbs_append_iff] at hwhole
  obtain ⟨mid, early, late, hfeed, hlate, rfl⟩ := hwhole
  have hnodup := h.nodup
  rw [List.filterMap_append] at hnodup
  obtain ⟨hnodupEarly, hnodupLate, -⟩ := List.nodup_append.mp hnodup
  obtain ⟨hmid, hsettled⟩ : mid.state ≠ .exited ∧ mid.Settled := by
    have hperformed := Client.performed_perform p.client (.feed bytes)
    have hnext : (p.client.perform (.feed bytes)).1 = mid := congrArg Prod.fst hfeed
    rw [hnext] at hperformed
    exact ⟨hperformed.state_ne_exited nofun h.state_ne, hperformed.settled h.settled⟩
  obtain ⟨q, hagain, harrived⟩ := hturn mid early hfeed
  have hstate : q.client.state ≠ .exited := by
    have hsame : q.client.state = mid.state := (congrArg Client.state harrived.core_eq :)
    rw [hsame]
    exact hmid
  -- Every event at hand is that of a request which awaits a reply since this piece.
  obtain ⟨r, hevents, hempty, hrelayed, hset⟩ := nextEvents_backlog harrived.faultless hstate
    (fun id hid => by
      rw [harrived.backlog_eq] at hid
      exact (harrived.isAwaitingReply_iff id).mpr (Or.inl hid))
    (by rw [harrived.backlog_eq]; exact hnodupEarly)
  rw [harrived.backlog_eq] at hevents hrelayed hset
  have hcore : r.client.core = mid.core := hrelayed.core_eq.trans harrived.core_eq
  have hrest : r.transport.input = rest := hrelayed.input_eq.trans harrived.input_eq
  obtain ⟨reached, habsorbs, hend'⟩ := hlate.congr hcore.symm
  refine ⟨r, early, late, rfl, ?_, ?_, ?_, fun n => ?_⟩
  · refine ⟨hempty, hrelayed.faultless, hsettled.congr hcore.symm, ?_, fun id => ?_, ?_,
      hnodupLate⟩
    · rw [hrelayed.state_eq]
      exact hstate
    · rw [← Bool.not_eq_true, hset, harrived.isAwaitingReply_iff, h.isAwaitingReply_eq id]
      rintro ⟨hid | hid, hnot⟩
      · exact hnot hid
      · cases hid
    · rw [hrest]
      exact ⟨reached, habsorbs, hend'.trans hend⟩
  · rw [hflat, hrest, List.length_append]
    exact Nat.lt_add_of_pos_left (List.length_pos_iff.mpr hbytes)
  · rw [hrelayed.sent_eq, harrived.sent_eq, pieceMessages, Message.frames_append,
      List.append_assoc]
  · rw [← Nat.add_assoc, nextEvents_of_again hagain, Nat.add_assoc, nextEvents_add, hevents]

/-- The events of the stream are handed out, whatever pieces it comes in. The induction is on the
bytes that are left, and `Between` is the invariant. -/
private theorem Between.nextEvents {p : Pump Stream} {last : Client} {events : List Event}
    (h : Between p last events) :
    ∃ q messages,
      (∀ n, p.nextEvents (events.length + (n + 1)) =
        (q, (events.map fun event => .ready (.ok event)) ++
          List.replicate (n + 1) (.ready (.error .eof)))) ∧
      q.transport.written = p.sent ++ Message.frames messages ∧
      messages.filter Message.isResponse = (events.filterMap Event.response?).map .response ∧
      messages.filter (!·.isResponse) = events.filterMap Event.message? ∧
      (∀ id, q.client.isAwaitingReply id = false) ∧ q.client.core = last.core := by
  induction hsize : p.transport.input.flatten.length using Nat.strongRecOn
    generalizing p events with
  | ind size ih =>
    by_cases hinput : p.transport.input = []
    · obtain ⟨whole, hwhole, hend⟩ := h.absorbs
      rw [hinput, List.flatten_nil, Client.absorbs_nil_iff h.settled] at hwhole
      obtain ⟨rfl, rfl, -⟩ := hwhole
      obtain ⟨q, hends, hwritten, hclient⟩ :=
        nextEvents_of_input_nil h.backlog_eq h.faultless hinput
      refine ⟨q, [], fun n => ?_, ?_, rfl, rfl, fun id => ?_, ?_⟩
      · rw [List.length_nil, Nat.zero_add, hends]
        rfl
      · rw [hwritten]
        exact (List.append_nil _).symm
      · rw [hclient]
        exact h.isAwaitingReply_eq id
      · rw [hclient]
        exact hend
    · obtain ⟨r, early, late, rfl, hbetween, hless, hsent, hevents⟩ := h.piece hinput
      obtain ⟨q, messages, hmore, hwritten, hresponses, hothers, hcore⟩ :=
        ih _ (hsize ▸ hless) hbetween rfl
      obtain ⟨hresponses', hothers'⟩ := filter_pieceMessages early
      refine ⟨q, pieceMessages early ++ messages, fun n => ?_, ?_, ?_, ?_, hcore⟩
      · rw [List.length_append, Nat.add_assoc, ← Nat.add_assoc late.length, hevents,
          Nat.add_assoc, hmore, List.map_append, List.append_assoc]
      · rw [hwritten, hsent, Message.frames_append, List.append_assoc]
      · rw [List.filter_append, hresponses, hresponses', List.filterMap_append, List.map_append]
      · rw [List.filter_append, hothers, hothers', List.filterMap_append]

/-- Take a pump with nothing at hand and nothing kept of the received bytes, whose session has not
ended and whose client awaits no reply. Suppose that its client would take the whole input in at
once by `feed`, to the last byte, and that no two of the requests in it share an id. Then the pump
hands out the events of that, one after another, and after them the end, in whatever chunks the
input comes. By then it has written the bytes that were queued, and behind them the frames of
messages. The responses among these are those to the events, in their order, and each has the id of
the request of its event. The others are the messages that go with events. No reply is awaited any
more, and but for what it has for the server the client is the one that was fed at once. -/
theorem nextEvents_of_feed {p : Pump Stream} {last : Client} {events : List Event}
    (hbacklog : p.backlog = []) (hreceived : p.client.received = [])
    (hstate : p.client.state ≠ .exited) (hnone : ∀ id, p.client.isAwaitingReply id = false)
    (ht : p.transport.Faultless)
    (hfeed : p.client.feed p.transport.input.flatten = (last, .ok events))
    (hwhole : last.received = [])
    (hdistinct : (events.filterMap Event.requestId?).Nodup) :
    ∃ q messages,
      (∀ n, p.nextEvents (events.length + (n + 1)) =
        (q, (events.map fun event => .ready (.ok event)) ++
          List.replicate (n + 1) (.ready (.error .eof)))) ∧
      q.transport.written =
        p.transport.written ++ p.client.outgoing ++ Message.frames messages ∧
      messages.filter Message.isResponse = (events.filterMap Event.response?).map .response ∧
      (events.filterMap Event.response?).map (·.id) = events.filterMap Event.requestId? ∧
      messages.filter (!·.isResponse) = events.filterMap Event.message? ∧
      (∀ id, q.client.isAwaitingReply id = false) ∧ q.client.core = last.core := by
  -- At the start the pump is between two pieces, the first of which is still to come.
  have hbetween : Between p last events :=
    ⟨hbacklog, ht, Or.inl hreceived, hstate, hnone, ⟨last, ⟨hfeed, hwhole⟩, rfl⟩, hdistinct⟩
  obtain ⟨q, messages, hevents, hwritten, hresponses, hothers, hend⟩ := hbetween.nextEvents
  refine ⟨q, messages, hevents, hwritten, hresponses, ?_, hothers, hend⟩
  rw [List.map_filterMap]
  exact congrArg (events.filterMap ·) (funext Event.id_response?)

/-- Two requests of a server: one for an action, and one that is not understood. They have ids of
either kind. -/
private def inquiries : List Json :=
  [.object [("id", .string "a"), ("jsonrpc", .string "2.0"),
      ("method", .string "window/showMessageRequest"),
      ("params", .object [("message", .string "hi"), ("type", .number (.integer 3))])],
    .object [("id", .number (.integer 4)), ("jsonrpc", .string "2.0"),
      ("method", .string "workspace/configuration")]]

/-- A pump whose server writes the two `inquiries`, cut inside the body of the first. -/
private def inquiring : Pump Stream :=
  new .new ⟨[(Frame.encodeAll inquiries).take 60, (Frame.encodeAll inquiries).drop 60], none, [],
    none⟩

/-- The events of the two `inquiries`, as the caller is given them. -/
private def inquiryEvents : List Event :=
  [.showMessageRequest (.string "a") .info "hi" [],
    .unsupported (some (.integer 4)) "workspace/configuration" none]

private theorem length_inquiries : (Frame.encodeAll inquiries).length = 201 := by decide +kernel

private theorem faultless_inquiring : inquiring.transport.Faultless := by
  refine ⟨?_, rfl, rfl⟩
  show ∀ chunk ∈ [_, _], chunk ≠ []
  simp [← List.length_pos_iff, length_inquiries]

/-- The client would take the two requests in at once, and keep nothing of them. -/
private theorem feed_inquiring : ∃ last,
    inquiring.client.feed inquiring.transport.input.flatten = (last, .ok inquiryEvents) ∧
      last.received = [] := by
  have hflat : inquiring.transport.input.flatten = Frame.encodeAll inquiries := by
    show _ ++ (_ ++ []) = _
    rw [List.append_nil, List.take_append_drop]
  have hplain : ∀ m ∈ inquiries, m.isIntegral Json.depthLimit = true ∧ m.isOrdered = true ∧
      (Frame.bodyOf m).length ≤ Frame.defaultLimit := by decide +kernel
  have hfits : (Frame.encodeAll inquiries).length ≤ Frame.sizeBound := by
    rw [length_inquiries]
    decide
  have hvalid : Client.new.validate inquiries = .ok (inquiryEvents.map .call) := rfl
  rw [hflat]
  exact ⟨_, Client.feed_encodeAll rfl hplain hfits hvalid, rfl⟩

/-- Both `inquiries` are handed out and replied to, though the first of them comes in two pieces and
the second of them with the rest of the first. -/
theorem nextEvents_inquiring :
    inquiring.backlog = [] ∧ inquiring.client.received = [] ∧
      inquiring.client.state ≠ .exited ∧
      (∀ id, inquiring.client.isAwaitingReply id = false) ∧ inquiring.transport.Faultless ∧
      (∃ last, inquiring.client.feed inquiring.transport.input.flatten =
        (last, .ok inquiryEvents) ∧ last.received = []) ∧
      (inquiryEvents.filterMap Event.requestId?).Nodup ∧
      ∃ q, inquiring.nextEvents 3 =
          (q, [.ready (.ok (.showMessageRequest (.string "a") .info "hi" [])),
            .ready (.ok (.unsupported (some (.integer 4)) "workspace/configuration" none)),
            .ready (.error .eof)]) ∧
        q.transport.written = Message.frames
          [.response (.success (.string "a") .null),
            .response (.methodNotFound (.integer 4) "workspace/configuration")] ∧
        ∀ id, q.client.isAwaitingReply id = false := by
  have hdistinct : (inquiryEvents.filterMap Event.requestId?).Nodup := by decide +kernel
  refine ⟨rfl, rfl, nofun, fun id => rfl, faultless_inquiring, feed_inquiring, hdistinct, ?_⟩
  obtain ⟨last, hfeed, hwhole⟩ := feed_inquiring
  obtain ⟨q, messages, hall, hwritten, hresponses, -, hothers, hnone, -⟩ :=
    nextEvents_of_feed (p := inquiring) rfl rfl nofun (fun id => rfl) faultless_inquiring hfeed
      hwhole hdistinct
  -- No event of the two goes with a message, so the messages are the responses.
  have hmessages : messages = messages.filter Message.isResponse := by
    have hnot : messages.filter (!·.isResponse) = [] := hothers
    rw [List.filter_eq_nil_iff] at hnot
    refine (List.filter_eq_self.mpr fun m hm => ?_).symm
    simpa using hnot m hm
  refine ⟨q, hall 0, ?_, hnone⟩
  rw [hwritten, hmessages, hresponses]
  show [] ++ [] ++ Message.frames (inquiryEvents.filterMap Event.response? |>.map .response) = _
  rw [List.nil_append, List.nil_append]
  rfl

end Pump

end LspSession
