import LspSession.Pump.Basic
import LspSession.Proofs.Client.Core
import LspSession.Proofs.Client.Faults
import LspSession.Proofs.Client.Replies

/-!
# `LspSession.Proofs.Pump.Turn`: what a pump does to its client and its transport

A pump works on its client by the client's own calls and on its transport by reads and writes. The
inversion lemmas say which. Writing the queued bytes is one drain and one write (`Flushed`), dealing
with an event is one reply or none (`Answered`), and a turn (`Turned`) is these two for the event
at hand, or a write, a read and a feed if no event is at hand. Nothing else ever happens to the
client, so what holds of a client under all its calls holds of the client of a pump.

Waiting is turns in a row of which the last one stops it (`waitFrom_cases`). What every turn keeps,
turns in a row keep (`Turns.induction`).
-/

set_option autoImplicit false

namespace LspSession

open Client (Operation)

/-- The reply that a pump sends when it deals with an event. Nobody is there to choose an action,
and a request that is not understood is refused with `replyMethodNotFound`. -/
def Event.reply? : Event → Option Operation
  | .showMessageRequest id _ _ _ => some (.replyToShowMessageRequest id none)
  | .unsupported (some id) method _ => some (.replyMethodNotFound id method)
  | _ => none

/-- The response of the reply to an event: `null` for the choice that nobody makes, and the code of
JSON-RPC for a method that is not known. -/
def Event.response? : Event → Option Response
  | .showMessageRequest id _ _ _ => some ⟨id, .ok .null⟩
  | .unsupported (some id) method _ =>
    some ⟨id, .error ⟨-32601, "Method not found: " ++ method, none⟩⟩
  | _ => none

/-- The reply to an event asks for the response to it: `Operation.response?` of `event.reply?` is
`event.response?`. -/
theorem Event.exists_response?_of_reply? {event : Event} {op : Operation}
    (h : event.reply? = some op) :
    ∃ response, op.response? = some response ∧ event.response? = some response := by
  cases event with
  | showMessageRequest =>
    cases h
    exact ⟨_, rfl, rfl⟩
  | unsupported id =>
    cases id with
    | none => cases h
    | some id =>
      cases h
      exact ⟨_, rfl, rfl⟩
  | _ => cases h

/-- An event without a reply has no response, so `reply?` and `response?` are there for the same
events. -/
theorem Event.response?_of_reply?_none {event : Event} (h : event.reply? = none) :
    event.response? = none := by
  cases event with
  | showMessageRequest => cases h
  | unsupported id =>
    cases id with
    | none => rfl
    | some id => cases h
  | _ => rfl

/-- An event is replied to exactly if the server awaits a reply, under the id of its request
(`Event.requestId?`). -/
theorem Event.id_response? (event : Event) : event.response?.map (·.id) = event.requestId? := by
  cases event with
  | unsupported id => cases id <;> rfl
  | _ => rfl

namespace Client

/-- A session that has not ended refuses a reply only if its id awaits none, and the error says so.
In a session that has ended the refusal would be `.exited`. -/
theorem perform_of_refused {c : Client} {op : Operation} {response : Response} {e : StateError}
    (hop : op.response? = some response) (hstate : c.state ≠ .exited)
    (h : (c.perform op).2 = .done (.error e)) :
    e = .unknownRequest response.id ∧ c.isAwaitingReply response.id = false := by
  obtain ⟨operation, hperform⟩ := exists_perform_eq_reply c hop
  have hgoes : ¬ c.state.isTerminal = true := by
    cases hplace : c.state with
    | exited => exact absurd hplace hstate
    | _ => exact Bool.false_ne_true
  rw [hperform] at h
  unfold reply requireAwaiting at h
  rw [if_neg hgoes] at h
  -- The end of the session is ruled out, so only the check of the id is left to refuse the reply.
  cases hawaiting : c.awaitingReply.contains response.id with
  | true =>
    rw [hawaiting] at h
    cases h
  | false =>
    rw [hawaiting] at h
    cases h
    exact ⟨rfl, hawaiting⟩

/-- Only `sendExit` ends a session. Nothing that the server sends does, and no other command. -/
theorem Performed.state_ne_exited {c next : Client} {op : Operation} {outcome : Outcome}
    (h : Performed c op next outcome) (hop : op ≠ .sendExit) (hc : c.state ≠ .exited) :
    next.state ≠ .exited := by
  cases h with
  | fed h => exact h.state_ne_exited hc
  | drained | replied | refused => exact hc
  | requested hop' hstate =>
    rename_i kind params
    cases kind <;> exact nofun
  | exited => exact absurd rfl hop

/-- The client that has replied to an event: the frame of its `Event.response?` is queued and its id
awaits no reply any more. An event without a response leaves the client as it is. -/
def afterReply (c : Client) (event : Event) : Client :=
  match event.response? with
  | none => c
  | some response =>
    { c with
        outgoing := c.outgoing ++ Frame.encode response.wire
        awaitingReply := c.awaitingReply.erase response.id }

/-- Replying to an event (`afterReply`) queues the frame of its response, and nothing else. -/
theorem outgoing_afterReply (c : Client) (event : Event) :
    (c.afterReply event).outgoing =
      c.outgoing ++ Message.frames (event.response?.toList.map .response) := by
  unfold afterReply
  cases event.response? with
  | none => exact (List.append_nil _).symm
  | some response =>
    show c.outgoing ++ Frame.encode response.wire = c.outgoing ++ (Frame.encode response.wire ++ [])
    rw [List.append_nil]

/-- Replying to an event leaves the `core` of a client alone. -/
theorem core_afterReply (c : Client) (event : Event) : (c.afterReply event).core = c.core := by
  unfold afterReply
  cases event.response? <;> rfl

/-- Replying to an event leaves the `state` alone: it moves nothing. -/
theorem state_afterReply (c : Client) (event : Event) : (c.afterReply event).state = c.state :=
  (congrArg Client.state (c.core_afterReply event) :)

/-- Replying to an event takes its `Event.requestId?` out of those that await a reply. -/
theorem isAwaitingReply_afterReply_iff (c : Client) (event : Event) (id : RequestId) :
    (c.afterReply event).isAwaitingReply id = true ↔
      c.isAwaitingReply id = true ∧ event.requestId? ≠ some id := by
  rw [← event.id_response?]
  unfold afterReply
  cases event.response? with
  | none => simp
  | some response =>
    show (c.awaitingReply.erase response.id).contains id = true ↔ _
    rw [IdSet.contains_erase, Option.map_some, ne_eq, ne_eq, Option.some.injEq, and_comm,
      eq_comm (a := id)]
    rfl

end Client

/-- The `Pump.Turn` that a read comes to if it gives no bytes. The end of the stream is an error for
a pump, since the server should not go away first. -/
def ReadResult.turn? : ReadResult → Option Pump.Turn
  | .bytes _ => none
  | .ended => some (.failed .eof)
  | .failed e => some (.failed (.io e))
  | .waiting => some .pending

namespace Pump

variable {σ : Type}

/-! ### Events -/

/-- What dealing with an event does to a pump, with the result that `handle` gives back. The three
ways differ in what happens to the client, and each may add to the journal. -/
inductive Answered (p : Pump σ) (event : Event) : Pump σ → Except PumpError Unit → Prop where
  /-- The server awaits no reply. -/
  | quiet (journal : Array Log.Record) (hreply : event.reply? = none) :
    Answered p event { p with journal := journal } (.ok ())
  /-- The reply is queued. -/
  | replied (journal : Array Log.Record) {op : Operation} (hreply : event.reply? = some op)
      (hdone : (p.client.perform op).2 = .done (.ok ())) :
    Answered p event { p with client := (p.client.perform op).1, journal := journal } (.ok ())
  /-- The session does not allow the reply, and its client stays as it is. -/
  | refused (journal : Array Log.Record) {op : Operation} {e : StateError}
      (hreply : event.reply? = some op) (hrefused : (p.client.perform op).2 = .done (.error e)) :
    Answered p event { p with journal := journal } (.error (.session (.state e)))

/-- Dealing with an event comes to one of the three, and `handle` gives back what that way says. -/
theorem answered_handle (p : Pump σ) (event : Event) :
    Answered p event (p.handle event).1 (p.handle event).2 := by
  -- A reply is made by a call of the client, and what the pump gives back is what the call does.
  have hcall {op : Operation} (hreply : event.reply? = some op) {p' : Pump σ}
      {result : Except StateError Unit} {journal : Array Log.Record}
      (hperform : p.client.perform op = (p'.client, .done result))
      (hp' : p' = { p with client := p'.client, journal := journal }) :
      Answered p event p' (result.mapError fun e => .session (.state e)) := by
    rw [hp']
    cases result with
    | ok done =>
      have hclient : p'.client = (p.client.perform op).1 := (congrArg Prod.fst hperform).symm
      rw [hclient]
      exact .replied journal hreply (congrArg Prod.snd hperform)
    | error e =>
      have hclient : p'.client = p.client := by
        rw [← Client.perform_of_refusal (congrArg (·.2.refusal?) hperform), hperform]
      rw [hclient]
      exact .refused journal hreply (congrArg Prod.snd hperform)
  cases event with
  | showMessageRequest id severity text actions => exact hcall rfl rfl rfl
  | unsupported id method params =>
    cases id with
    | none => exact .quiet _ rfl
    | some id => exact hcall rfl rfl rfl
  | _ => exact .quiet _ rfl

/-- Dealing with an event leaves the transport and the events at hand alone. The reply is queued in
the client, and `flush` will write it. -/
theorem Answered.kept {p q : Pump σ} {event : Event} {result : Except PumpError Unit}
    (h : Answered p event q result) : q.transport = p.transport ∧ q.backlog = p.backlog := by
  cases h <;> exact ⟨rfl, rfl⟩

/-- An event that is dealt with leaves a client that has replied to it, which is
`Client.afterReply`. -/
theorem Answered.client_eq {p q : Pump σ} {event : Event} (h : Answered p event q (.ok ())) :
    q.client = p.client.afterReply event := by
  cases h with
  | quiet journal hreply =>
    rw [Client.afterReply, Event.response?_of_reply?_none hreply]
  | replied journal hreply hdone =>
    obtain ⟨response, hop, hresponse⟩ := Event.exists_response?_of_reply? hreply
    rw [Client.afterReply, hresponse]
    exact Client.perform_of_done hop hdone

/-- An event that is dealt with is not that of a request to which no reply is awaited: a reply to it
would have been `refused`. -/
theorem Answered.isAwaitingReply {p q : Pump σ} {event : Event} {id : RequestId}
    (h : Answered p event q (.ok ())) (hid : event.requestId? = some id) :
    p.client.isAwaitingReply id = true := by
  rw [← event.id_response?] at hid
  cases h with
  | quiet journal hreply =>
    rw [Event.response?_of_reply?_none hreply] at hid
    cases hid
  | replied journal hreply hdone =>
    obtain ⟨response, hop, hresponse⟩ := Event.exists_response?_of_reply? hreply
    rw [hresponse] at hid
    cases hid
    exact ((Client.perform_eq_done_iff p.client hop).mp hdone).2

/-- An event that cannot be dealt with in a session that has not ended is that of a request to which
no reply is awaited. The error is `.unknownRequest` of its id, and the client stays as it is. -/
theorem Answered.of_error {p q : Pump σ} {event : Event} {e : PumpError}
    (h : Answered p event q (.error e)) (hstate : p.client.state ≠ .exited) :
    ∃ id, event.requestId? = some id ∧ p.client.isAwaitingReply id = false ∧
      e = .session (.state (.unknownRequest id)) ∧ q.client = p.client := by
  cases h with
  | refused journal hreply hrefused =>
    obtain ⟨response, hop, hresponse⟩ := Event.exists_response?_of_reply? hreply
    obtain ⟨hunknown, hawaiting⟩ := Client.perform_of_refused hop hstate hrefused
    refine ⟨response.id, ?_, hawaiting, by rw [hunknown], rfl⟩
    rw [← event.id_response?, hresponse]
    rfl

/-! ### Bytes -/

variable [Transport σ]

/-- What writing the queued bytes does to a pump, with the result that `flush` gives back. Bytes
leave the client before they are written, so those of a write that fails are lost. -/
inductive Flushed (p : Pump σ) : Pump σ → Except PumpError Unit → Prop where
  /-- No bytes are queued. -/
  | idle (hnone : p.client.outgoing = []) : Flushed p p (.ok ())
  /-- The transport takes them. -/
  | wrote (journal : Array Log.Record) {t : σ} (hsome : p.client.outgoing ≠ [])
      (hwrite : Transport.write p.transport p.client.outgoing = (.ok (), t)) :
    Flushed p
      { p with client := (p.client.perform .drain).1, transport := t, journal := journal } (.ok ())
  /-- The transport fails, and they are lost. -/
  | failed {t : σ} {e : IoError}
      (hwrite : Transport.write p.transport p.client.outgoing = (.error e, t)) :
    Flushed p { p with client := (p.client.perform .drain).1, transport := t } (.error (.io e))

/-- Writing the queued bytes by `flush` comes to one of the three, and the transport is not called
if no bytes are queued. -/
theorem flushed_flush (p : Pump σ) : Flushed p p.flush.1 p.flush.2 := by
  unfold flush
  cases hdrained : p.client.drainOutgoing with
  | mk client bytes =>
    by_cases hnone : bytes = []
    · simp only [if_pos hnone]
      cases hdrained
      exact .idle hnone
    · cases hwrite : Transport.write p.transport bytes with
      | mk result t =>
        cases result with
        | error e =>
          simp only [if_neg hnone, hwrite]
          cases hdrained
          exact .failed hwrite
        | ok done =>
          simp only [if_neg hnone, hwrite]
          cases hdrained
          exact .wrote _ hnone hwrite

/-- Whether the transport takes them or not, the client has no `outgoing` bytes any more. Nothing
else of it has changed, and the events at hand are the same. -/
theorem Flushed.kept {p q : Pump σ} {result : Except PumpError Unit} (h : Flushed p q result) :
    q.client = { p.client with outgoing := [] } ∧ q.backlog = p.backlog := by
  cases h with
  | idle hnone =>
    refine ⟨?_, rfl⟩
    rw [← hnone]
  | wrote | failed => exact ⟨rfl, rfl⟩

/-- What one read does to a pump, when no event is at hand. The bytes are fed to the client whole,
and its events come behind those of the `backlog`. -/
inductive Fetched (p : Pump σ) : Pump σ → Turn → Prop where
  /-- Nothing is read. -/
  | dry {result : ReadResult} {t : σ} {turn : Turn}
      (hread : Transport.read p.transport = (result, t)) (hturn : result.turn? = some turn) :
    Fetched p { p with transport := t } turn
  /-- The bytes that are read are at fault. -/
  | faulty (journal : Array Log.Record) {bytes : Bytes} {t : σ} {e : ProtocolError}
      (hread : Transport.read p.transport = (.bytes bytes, t))
      (hfeed : (p.client.feed bytes).2 = .error e) :
    Fetched p { p with client := (p.client.feed bytes).1, transport := t, journal := journal }
      (.failed (.session (.protocol e)))
  /-- The events of the bytes that are read come to hand. -/
  | fed (journal : Array Log.Record) {bytes : Bytes} {t : σ} {events : List Event}
      (hread : Transport.read p.transport = (.bytes bytes, t))
      (hfeed : (p.client.feed bytes).2 = .ok events) :
    Fetched p
      { client := (p.client.feed bytes).1
        transport := t
        backlog := p.backlog ++ events
        journal := journal } .again

/-- The turn that a read comes to. A read that brought something is no end of the waiting: the
events, if there are any, are handed out by the turns that follow. -/
def Polled.turn : Polled Unit → Turn
  | .ready (.error e) => .failed e
  | .ready (.ok ()) => .again
  | .pending => .pending

/-- Reading once comes to one of the three. The command that `receive` runs under the journal is
`Client.feed`. -/
theorem fetched_receive (p : Pump σ) : Fetched p p.receive.1 (Polled.turn p.receive.2) := by
  unfold receive
  cases hread : Transport.read p.transport with
  | mk result t =>
    cases result with
    | ended | failed | waiting => exact .dry hread rfl
    | bytes bytes =>
      -- Processing what was just received is a feed in two steps, which the client keeps apart.
      have hprocess : (p.client.receive bytes).process = p.client.feed bytes := rfl
      simp only [command, hprocess]
      cases hfeed : (p.client.feed bytes).2 with
      | error e => exact .faulty _ hread hfeed
      | ok events => exact .fed _ hread hfeed

/-! ### Turns -/

/-- What a turn does to a pump, with the turn that it comes to. Either an event is at hand in the
`backlog`, and no byte is read, or none is and there is a write and then one read. -/
inductive Turned (p : Pump σ) : Pump σ → Turn → Prop where
  /-- The event at hand is dealt with, and what that brought up is written. -/
  | event {event : Event} {rest : List Event} {q p' : Pump σ} (hbacklog : p.backlog = event :: rest)
      (hanswered : Answered { p with backlog := rest } event q (.ok ()))
      (hflushed : Flushed q p' (.ok ())) :
    Turned p p' (.event event)
  /-- The event at hand cannot be replied to, and is lost. -/
  | refused {event : Event} {rest : List Event} {p' : Pump σ} {e : PumpError}
      (hbacklog : p.backlog = event :: rest)
      (hanswered : Answered { p with backlog := rest } event p' (.error e)) :
    Turned p p' (.failed e)
  /-- The event at hand is dealt with, but the transport fails. -/
  | unwritten {event : Event} {rest : List Event} {q p' : Pump σ} {e : PumpError}
      (hbacklog : p.backlog = event :: rest)
      (hanswered : Answered { p with backlog := rest } event q (.ok ()))
      (hflushed : Flushed q p' (.error e)) :
    Turned p p' (.failed e)
  /-- No event is at hand, and the transport fails before anything is read. -/
  | unread {p' : Pump σ} {e : PumpError} (hbacklog : p.backlog = [])
      (hflushed : Flushed p p' (.error e)) :
    Turned p p' (.failed e)
  /-- No event is at hand, and one read follows on a write. -/
  | fetched {q p' : Pump σ} {turn : Turn} (hbacklog : p.backlog = [])
      (hflushed : Flushed p q (.ok ())) (hfetched : Fetched q p' turn) :
    Turned p p' turn

/-- A turn comes to one of the five. Every invariant of a pump is a case analysis over this
inversion of `turn`. -/
theorem turned_turn (p : Pump σ) : Turned p p.turn.1 p.turn.2 := by
  unfold turn
  -- The branches of the code come in the order of the cases: first those with an event at hand.
  split
  · next event rest hbacklog =>
    have hanswered := answered_handle { p with backlog := rest } event
    unfold deliver
    split
    · next q e hq =>
      rw [hq] at hanswered
      exact .refused hbacklog hanswered
    · next q hq =>
      rw [hq] at hanswered
      have hflushed := flushed_flush q
      split
      · next p' e hp' =>
        rw [hp'] at hflushed
        exact .unwritten hbacklog hanswered hflushed
      · next p' hp' =>
        rw [hp'] at hflushed
        exact .event hbacklog hanswered hflushed
  · next hbacklog =>
    have hflushed := flushed_flush p
    unfold fetch
    split
    · next p' e hp' =>
      rw [hp'] at hflushed
      exact .unread hbacklog hflushed
    · next q hq =>
      rw [hq] at hflushed
      have hfetched := fetched_receive q
      split
      · next p' e hp' =>
        rw [hp'] at hfetched
        exact .fetched hbacklog hflushed hfetched
      · next p' hp' =>
        rw [hp'] at hfetched
        exact .fetched hbacklog hflushed hfetched
      · next p' hp' =>
        rw [hp'] at hfetched
        exact .fetched hbacklog hflushed hfetched

/-! ### Waiting -/

/-- Turns in a row, none of which stops the waiting, and the events that they hand out. An event
that `accept` accepts would stop it, as a failure would and a read that finds nothing. -/
inductive Turns (accept : Event → Bool) : Pump σ → List Event → Pump σ → Prop where
  | nil (p : Pump σ) : Turns accept p [] p
  | again {p q last : Pump σ} {events : List Event} (hturn : p.turn = (q, .again))
      (tail : Turns accept q events last) :
    Turns accept p events last
  | event {p q last : Pump σ} {event : Event} {events : List Event}
      (hturn : p.turn = (q, .event event)) (haccept : accept event = false)
      (tail : Turns accept q events last) :
    Turns accept p (event :: events) last

/-- Waiting takes one turn, and goes on unless that stops it. This is the defining equation of
`waitFrom`, without the measure that shows that it ends. -/
theorem waitFrom_eq (accept : Event → Bool) (skipped : Nat) (p : Pump σ) :
    p.waitFrom accept skipped =
      match p.turn with
      | (q, .event e) =>
        if accept e then (q, skipped, .ready (.ok e)) else q.waitFrom accept (skipped + 1)
      | (q, .again) => q.waitFrom accept skipped
      | (q, .failed e) => (q, skipped, .ready (.error e))
      | (q, .pending) => (q, skipped, .pending) := by
  rw [waitFrom]
  split <;> next hturn => simp only [hturn]

/-- What the turn that stops the waiting gives back, and `none` for a turn that does not stop it. -/
def Turn.result? (accept : Event → Bool) : Turn → Option (Polled Event)
  | .event e => if accept e then some (.ready (.ok e)) else none
  | .again => none
  | .failed e => some (.ready (.error e))
  | .pending => some .pending

/-- Waiting is turns in a row and a last one that stops it. The events that the others hand out are
counted, and `waitFrom` always gives back a result. -/
theorem waitFrom_cases (accept : Event → Bool) (skipped : Nat) (p : Pump σ) :
    ∃ events q turn result, Turns accept p events q ∧ q.turn.2 = turn ∧
      turn.result? accept = some result ∧
      p.waitFrom accept skipped = (q.turn.1, skipped + events.length, result) := by
  -- The events that were skipped are put in front of those of the rest of the waiting.
  fun_induction waitFrom accept skipped p with
  | case1 skipped p p' e hturn haccept =>
    refine ⟨[], p, .event e, _, .nil p, by rw [hturn], ?_, by rw [hturn]; rfl⟩
    rw [Turn.result?, if_pos haccept]
  | case2 skipped p p' e hturn haccept ih =>
    obtain ⟨events, q, turn, result, hturns, hlast, hresult, hwait⟩ := ih
    have hnot : accept e = false := Bool.eq_false_iff.mpr haccept
    refine ⟨e :: events, q, turn, result, .event hturn hnot hturns, hlast, hresult, ?_⟩
    rw [hwait, List.length_cons, Nat.add_assoc, Nat.add_comm 1]
  | case3 skipped p p' hturn ih =>
    obtain ⟨events, q, turn, result, hturns, hlast, hresult, hwait⟩ := ih
    exact ⟨events, q, turn, result, .again hturn hturns, hlast, hresult, hwait⟩
  | case4 skipped p p' e hturn =>
    exact ⟨[], p, _, _, .nil p, by rw [hturn], rfl, by rw [hturn]; rfl⟩
  | case5 skipped p p' hturn =>
    exact ⟨[], p, _, _, .nil p, by rw [hturn], rfl, by rw [hturn]; rfl⟩

/-- What every turn keeps, turns in a row keep. So a property of a pump is shown for `turn` alone.
-/
theorem Turns.induction {accept : Event → Bool} {motive : Pump σ → Prop}
    (hturn : ∀ p, motive p → motive p.turn.1) {p q : Pump σ} {events : List Event}
    (h : Turns accept p events q) (hp : motive p) : motive q := by
  induction h with
  | nil p => exact hp
  | again hone tail ih | event hone haccept tail ih =>
    have hnext := hturn _ hp
    rw [hone] at hnext
    exact ih hnext

end Pump

end LspSession
