import LspSession.Proofs.Client.Asked
import LspSession.Proofs.Pump.Turn

/-!
# `LspSession.Proofs.Pump.Traffic`: what passes between a pump and its server

A `Recorded` transport does what another transport does and keeps a record of it: the bytes of each
read and of each write, in the order in which they happen. A pump takes no notice of the record.
Forgetting it (`plain`) before the pump works or afterwards comes to the same, turn by turn and wait
by wait (`plain_turn`, `plain_waitFor`). So what the record shows of a pump over a recorded
transport happens between the pump and the transport itself.

`Carries` reads messages off a record: each write is the frames of messages, and no response among
them goes out before the server has asked for it. A pump keeps to that in all it does. `Ledger` is
the invariant, with the messages that have been sent and those that wait in its client.
-/

set_option autoImplicit false

namespace LspSession

/-- What passes between a pump and a transport: the bytes of a read that gave some (`received`), and
those of each write that was taken (`sent`) or failed. -/
inductive Traffic where
  | received (bytes : Bytes)
  | sent (bytes : Bytes)
  /-- A write that failed. -/
  | refused (bytes : Bytes)

namespace Traffic

/-- The bytes that came from the server, read after read. They are what the client was fed, in the
same order. -/
def receivedBytes (history : List Traffic) : Bytes :=
  history.flatMap fun
    | .received bytes => bytes
    | _ => []

/-- The bytes that went to the server. Those of a write that failed are not among them, as it is not
known what the server got. -/
def sentBytes (history : List Traffic) : Bytes :=
  history.flatMap fun
    | .sent bytes => bytes
    | _ => []

/-- The bytes received in a longer record are those of its beginning and those that came since. -/
theorem receivedBytes_append (first second : List Traffic) :
    receivedBytes (first ++ second) = receivedBytes first ++ receivedBytes second :=
  List.flatMap_append

/-- The bytes sent in a longer record are those of its beginning and those that were written since.
-/
theorem sentBytes_append (first second : List Traffic) :
    sentBytes (first ++ second) = sentBytes first ++ sentBytes second :=
  List.flatMap_append

/-- What a read adds to the record: its bytes. The end of the stream, a failure and a read that
finds nothing bring none, and are not put down. -/
def ofRead : ReadResult → List Traffic
  | .bytes bytes => [.received bytes]
  | _ => []

/-- What a write adds to the record. A write that fails is put down as well, so that a record
without `refused` is one in which all went out. -/
def ofWrite (bytes : Bytes) : Except IoError Unit → Traffic
  | .ok _ => .sent bytes
  | .error _ => .refused bytes

end Traffic

/-! ### Recorded transports -/

/-- A transport with the record of what has passed. It is a `Transport` again, so any pump may be
given one. -/
structure Recorded (σ : Type) where
  transport : σ
  history : List Traffic

namespace Recorded

variable {σ : Type} [Transport σ]

instance : Transport (Recorded σ) where
  read s :=
    let (result, t) := Transport.read s.transport
    (result, ⟨t, s.history ++ Traffic.ofRead result⟩)
  write s bytes :=
    let (result, t) := Transport.write s.transport bytes
    (result, ⟨t, s.history ++ [Traffic.ofWrite bytes result]⟩)
  within limit s := ⟨Transport.within limit s.transport, s.history⟩
  remaining s := Transport.remaining s.transport
  remaining_read h := by
    obtain ⟨hresult, hnext⟩ := Prod.mk.inj h
    rw [← hnext]
    exact Transport.remaining_read (Prod.ext hresult rfl)
  remaining_write s bytes := Transport.remaining_write s.transport bytes
  remaining_within limit s := Transport.remaining_within limit s.transport

/-- What is read is read from the transport and put down with `Traffic.ofRead`, behind all that has
passed before. -/
theorem read_eq (s : Recorded σ) :
    Transport.read s =
      ((Transport.read s.transport).1,
        ⟨(Transport.read s.transport).2,
          s.history ++ Traffic.ofRead (Transport.read s.transport).1⟩) := rfl

/-- What is written is written to the transport and put down with `Traffic.ofWrite`, behind all that
has passed before. -/
theorem write_eq (s : Recorded σ) (bytes : Bytes) :
    Transport.write s bytes =
      ((Transport.write s.transport bytes).1,
        ⟨(Transport.write s.transport bytes).2,
          s.history ++ [Traffic.ofWrite bytes (Transport.write s.transport bytes).1]⟩) := rfl

end Recorded

namespace Pump

variable {σ : Type}

/-- The pump without the record of its transport. Its client, the events at hand and the journal are
those of `p`. -/
def plain (p : Pump (Recorded σ)) : Pump σ :=
  ⟨p.client, p.transport.transport, p.backlog, p.journal⟩

/-- Dealing with an event leaves the transport alone, so the record may be forgotten before `handle`
or after it. -/
theorem plain_handle (p : Pump (Recorded σ)) (event : Event) :
    p.plain.handle event = ((p.handle event).1.plain, (p.handle event).2) := by
  unfold handle
  cases hreply : autoReply? event with
  | none => rfl
  | some reply => rfl

variable [Transport σ]

/-- A write comes to the same with and without a record: `flush` only looks at what the transport
says of the bytes. -/
theorem plain_flush (p : Pump (Recorded σ)) : p.plain.flush = (p.flush.1.plain, p.flush.2) := by
  unfold flush
  cases hdrained : p.client.drainOutgoing with
  | mk client bytes =>
    have hplain : p.plain.client.drainOutgoing = (client, bytes) := hdrained
    by_cases hnone : bytes = []
    · simp only [hplain, if_pos hnone]
    · simp only [hplain, if_neg hnone, Recorded.write_eq]
      cases hwrite : Transport.write p.transport.transport bytes with
      | mk result t =>
        have hplain' : Transport.write p.plain.transport bytes = (result, t) := hwrite
        simp only [hplain']
        cases result <;> rfl

/-- A read comes to the same with and without a record: `receive` feeds the bytes that the transport
gives, which are put down but not changed. -/
theorem plain_receive (p : Pump (Recorded σ)) :
    p.plain.receive = (p.receive.1.plain, p.receive.2) := by
  unfold receive
  rw [Recorded.read_eq]
  cases hread : Transport.read p.transport.transport with
  | mk result t =>
    have hplain : Transport.read p.plain.transport = (result, t) := hread
    rw [hplain]
    cases result with
    | waiting | ended | failed => rfl
    | bytes bytes =>
      cases hprocess : (p.client.receive bytes).process with
      | mk client result =>
        have hplain' : (p.plain.client.receive bytes).process = (client, result) := hprocess
        simp only [command, hprocess, hplain']
        cases result <;> rfl

/-- Handing out the event at hand takes no notice of the record, since neither `handle` nor `flush`
does. -/
theorem plain_deliver (p : Pump (Recorded σ)) (event : Event) :
    p.plain.deliver event = ((p.deliver event).1.plain, (p.deliver event).2) := by
  unfold deliver
  rw [plain_handle]
  cases hhandle : p.handle event with
  | mk q result =>
    cases result with
    | error e => rfl
    | ok done =>
      simp only
      rw [plain_flush]
      cases hflush : q.flush with
      | mk r result => cases result <;> rfl

/-- Coming by events takes no notice of the record, since neither `flush` nor `receive` does. -/
theorem plain_fetch (p : Pump (Recorded σ)) : p.plain.fetch = (p.fetch.1.plain, p.fetch.2) := by
  unfold fetch
  rw [plain_flush]
  cases hflush : p.flush with
  | mk q result =>
    cases result with
    | error e => rfl
    | ok done =>
      simp only
      rw [plain_receive]
      cases hreceive : q.receive with
      | mk r result =>
        cases result with
        | pending => rfl
        | ready result => cases result <;> rfl

/-- A turn takes no notice of the record, whether an event is at hand (`deliver`) or has to be read
(`fetch`). -/
theorem plain_turn (p : Pump (Recorded σ)) : p.plain.turn = (p.turn.1.plain, p.turn.2) := by
  unfold turn
  have hsame : p.plain.backlog = p.backlog := rfl
  rw [hsame]
  cases hbacklog : p.backlog with
  | nil => exact plain_fetch p
  | cons event rest => exact plain_deliver { p with backlog := rest } event

/-- Waiting takes no notice of the record. It skips the same events, stops at the same turn and
gives back the same. -/
theorem plain_waitFrom (accept : Event → Bool) (skipped : Nat) (p : Pump (Recorded σ)) :
    p.plain.waitFrom accept skipped =
      ((p.waitFrom accept skipped).1.plain, (p.waitFrom accept skipped).2) := by
  -- The induction is that of the waiting itself, one case for each way in which a turn can come
  -- out.
  fun_induction waitFrom accept skipped p with
  | case1 skipped p q event hturn haccept =>
    rw [waitFrom_eq, plain_turn, hturn]
    exact if_pos haccept
  | case2 skipped p q event hturn haccept ih =>
    rw [waitFrom_eq, plain_turn, hturn]
    exact (if_neg haccept).trans ih
  | case3 skipped p q hturn ih =>
    rw [waitFrom_eq, plain_turn, hturn]
    exact ih
  | case4 skipped p q e hturn =>
    rw [waitFrom_eq, plain_turn, hturn]
  | case5 skipped p q hturn =>
    rw [waitFrom_eq, plain_turn, hturn]

/-- The same for `waitFor`, which starts with no event skipped. -/
theorem plain_waitFor (accept : Event → Bool) (p : Pump (Recorded σ)) :
    p.plain.waitFor accept = ((p.waitFor accept).1.plain, (p.waitFor accept).2) :=
  plain_waitFrom accept 0 p

end Pump

/-! ### Messages on the record -/

/-- The bytes that went to the server are the frames of messages, and every response among these
goes to a request that had come from the server by then. `Asked` says so of the bytes received, read
as frames of at most `limit` bytes each. -/
inductive Carries (limit : Nat) : List Traffic → List Message → Prop where
  | nil : Carries limit [] []
  | received {history : List Traffic} {messages : List Message} (h : Carries limit history messages)
      (bytes : Bytes) : Carries limit (history ++ [.received bytes]) messages
  | sent {history : List Traffic} {messages more : List Message}
      (h : Carries limit history messages)
      (hasked : ∀ response, .response response ∈ more →
        Asked limit (Traffic.receivedBytes history) response.id) :
    Carries limit (history ++ [.sent (Message.frames more)]) (messages ++ more)
  | refused {history : List Traffic} {messages : List Message} (h : Carries limit history messages)
      (bytes : Bytes) : Carries limit (history ++ [.refused bytes]) messages

/-- The bytes that went to the server are the frames of the messages that the record `Carries`, one
behind the other. -/
theorem Carries.sentBytes_eq {limit : Nat} {history : List Traffic} {messages : List Message}
    (h : Carries limit history messages) :
    Traffic.sentBytes history = Message.frames messages := by
  induction h with
  | nil => rfl
  | received h bytes ih | refused h bytes ih =>
    rw [Traffic.sentBytes_append, ih]
    exact List.append_nil _
  | sent h hasked ih =>
    rw [Traffic.sentBytes_append, Message.frames_append, ih]
    exact congrArg _ (List.append_nil _)

namespace Pump

variable {σ : Type} [Transport σ]

/-- The messages that a pump has sent, and those that wait in its client. `carries` speaks of the
record and `queues` of the client, and both count the requests of the server in the bytes received
so far. -/
structure Ledger (p : Pump (Recorded σ)) (sent waiting : List Message) : Prop where
  carries : Carries p.client.config.maxMessageSize p.transport.history sent
  queues : p.client.Queues (Traffic.receivedBytes p.transport.history) waiting

namespace Ledger

/-- Writing sends the messages that wait. They were asked for before the write, so the record goes
on as `Carries` demands. -/
theorem flushed {p q : Pump (Recorded σ)} {sent waiting : List Message}
    (h : Ledger p sent waiting) (hflushed : Flushed p q (.ok ())) :
    Ledger q (sent ++ waiting) [] := by
  cases hflushed with
  | idle hnone =>
    -- No message is framed as no bytes, so no queued bytes means that no message waits.
    have hempty : waiting = [] := Message.eq_nil_of_frames (h.queues.outgoing_eq.symm.trans hnone)
    rw [hempty, List.append_nil]
    rw [hempty] at h
    exact h
  | wrote journal hsome hwrite =>
    rw [Recorded.write_eq] at hwrite
    obtain ⟨hresult, rfl⟩ := Prod.mk.inj hwrite
    rw [hresult]
    refine ⟨?_, ?_⟩
    · show Carries _ (p.transport.history ++ [.sent p.client.outgoing]) _
      rw [h.queues.outgoing_eq]
      exact h.carries.sent h.queues.asked
    · show Client.Queues _ (Traffic.receivedBytes (_ ++ [.sent _])) []
      rw [Traffic.receivedBytes_append]
      exact (List.append_nil (Traffic.receivedBytes p.transport.history)).symm ▸ h.queues.drained

/-- A write that fails sends nothing, though the bytes are gone from the client. The record shows
that it failed. -/
theorem unwritten {p q : Pump (Recorded σ)} {sent waiting : List Message} {e : PumpError}
    (h : Ledger p sent waiting) (hflushed : Flushed p q (.error e)) :
    Carries q.client.config.maxMessageSize q.transport.history sent ∧
      ∃ bytes, .refused bytes ∈ q.transport.history := by
  cases hflushed with
  | failed hwrite =>
    rw [Recorded.write_eq] at hwrite
    obtain ⟨hresult, rfl⟩ := Prod.mk.inj hwrite
    rw [hresult]
    exact ⟨h.carries.refused _, p.client.outgoing, List.mem_append_right _ List.mem_cons_self⟩

omit [Transport σ] in
/-- A command puts its message to those that wait. A command that is refused has none. -/
theorem commanded {p : Pump (Recorded σ)} {sent waiting : List Message} (h : Ledger p sent waiting)
    {op : Client.Operation} (hop : op.isCommand = true) (journal : Array Log.Record) :
    Ledger { p with client := (p.client.perform op).1, journal := journal } sent
      (waiting ++ op.messages p.client.config (p.client.perform op).2) := by
  -- The call is neither a feed nor a drain, so it adds nothing to the bytes received and takes
  -- none.
  have hplain : op ≠ .drain ∧ op.fedBytes = [] ∧ (p.client.perform op).2.isFault = false := by
    cases op with
    | feed | drain => cases hop
    | _ => exact ⟨nofun, rfl, rfl⟩
  obtain ⟨hdrain, hfed, hfault⟩ := hplain
  have hqueues := h.queues.perform hdrain hfault
  rw [hfed, List.append_nil] at hqueues
  refine ⟨?_, hqueues⟩
  show Carries (p.client.perform op).1.config.maxMessageSize p.transport.history sent
  rw [(Client.performed_perform p.client op).config_eq]
  exact h.carries

omit [Transport σ] in
/-- Dealing with an event puts its response to the messages that wait, if it has one. The session
allowed the reply, so the request had come. -/
theorem answered {p q : Pump (Recorded σ)} {sent waiting : List Message} {event : Event}
    (h : Ledger p sent waiting) (hanswered : Answered p event q (.ok ())) :
    Ledger q sent (waiting ++ event.response?.toList.map .response) := by
  cases hanswered with
  | quiet journal hreply =>
    rw [Event.response?_of_reply?_none hreply]
    show Ledger _ sent (waiting ++ [])
    rw [List.append_nil]
    exact ⟨h.carries, h.queues⟩
  | replied journal hreply hdone =>
    rename_i op
    obtain ⟨response, hop, hresponse⟩ := Event.exists_response?_of_reply? hreply
    -- Only three calls have a response, and each sends it and nothing else.
    have hcall : op.isCommand = true ∧
        op.messages p.client.config (.done (.ok ())) = [.response response] := by
      cases op with
      | replyToShowMessageRequest | replyWithError | replyMethodNotFound =>
        cases hop
        exact ⟨rfl, rfl⟩
      | _ => cases hop
    have hledger := h.commanded hcall.1 journal
    rw [hdone, hcall.2] at hledger
    rw [hresponse]
    exact hledger

/-- A read sends nothing, and what it brings is put down at the end of the record. -/
theorem read {p : Pump (Recorded σ)} {sent waiting : List Message} (h : Ledger p sent waiting)
    {result : ReadResult} {t : Recorded σ} (hread : Transport.read p.transport = (result, t)) :
    t.history = p.transport.history ++ Traffic.ofRead result ∧
      Carries p.client.config.maxMessageSize t.history sent := by
  rw [Recorded.read_eq] at hread
  obtain ⟨rfl, rfl⟩ := Prod.mk.inj hread
  refine ⟨rfl, ?_⟩
  show Carries _ (p.transport.history ++ _) sent
  cases (Transport.read p.transport.transport).1 with
  | bytes bytes => exact h.carries.received bytes
  | ended | failed | waiting =>
    show Carries _ (p.transport.history ++ []) sent
    rw [List.append_nil]
    exact h.carries

/-- The events of bytes that are read and fed put the messages that go with them to those that wait.
Only the answer to the handshake brings one, the `initialized` notification. -/
theorem fed {p : Pump (Recorded σ)} {sent waiting : List Message} (h : Ledger p sent waiting)
    {bytes : Bytes} {t : Recorded σ} {events : List Event}
    (hread : Transport.read p.transport = (.bytes bytes, t))
    (hfeed : (p.client.feed bytes).2 = .ok events) (backlog : List Event)
    (journal : Array Log.Record) :
    Ledger ⟨(p.client.feed bytes).1, t, backlog, journal⟩ sent
      (waiting ++ events.filterMap Event.message?) := by
  obtain ⟨hhistory, hcarries⟩ := h.read hread
  have houtcome : (p.client.perform (.feed bytes)).2 = .fed (.ok events) :=
    congrArg Client.Outcome.fed hfeed
  have hqueues := @Client.Queues.perform _ _ _ h.queues (.feed bytes) nofun
    (by rw [houtcome]; rfl)
  rw [houtcome] at hqueues
  have hconfig : (p.client.feed bytes).1.config = p.client.config :=
    (Client.performed_perform p.client (.feed bytes)).config_eq
  refine ⟨?_, ?_⟩
  · show Carries (p.client.feed bytes).1.config.maxMessageSize t.history sent
    rw [hconfig]
    exact hcarries
  · show (p.client.feed bytes).1.Queues (Traffic.receivedBytes t.history) _
    rw [hhistory, Traffic.receivedBytes_append]
    show Client.Queues _ (_ ++ (bytes ++ [])) _
    rw [List.append_nil]
    exact hqueues

end Ledger

end Pump

end LspSession
