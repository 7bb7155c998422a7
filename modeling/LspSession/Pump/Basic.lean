import LspSession.Client.Journal
import LspSession.Json.Outline
import LspSession.Pump.Transport

/-!
# `LspSession.Pump.Basic`: driving a session over a transport

A pump hands to its client what the transport reads and writes what the client has for the server.
It works in turns. If an event is at hand, the pump deals with it, writes what that brought up and
hands the event to the caller. Otherwise it first writes whatever the client has queued, and only
then reads, so it never waits for the server while bytes for the server are waiting.

To deal with an event is to log it and to answer it if the server awaits a reply: a request for an
action gets no action, because nobody is there to choose, and a request that is not understood gets
a failure. An event whose reply the session does not allow is lost.

A turn that only reads lowers what is left of the transport, and a turn that gives an event shortens
the list of events at hand. So `Pump.waitFor` ends.
-/

set_option autoImplicit false

namespace LspSession

/-- Why a pump stops: an `IoError` of its transport, a `SessionError` of its client, or the end of
what the server writes. -/
inductive PumpError where
  /-- Reading or writing failed. -/
  | io (error : IoError)
  | session (error : SessionError)
  /-- The server will not write any more. -/
  | eof
  deriving DecidableEq

/-- The sentence that names an error. That of a session is the message of the `SessionError` alone.
-/
def PumpError.message : PumpError → String
  | .io e => "I/O error: " ++ e.message
  | .session e => e.message
  | .eof => "Server closed its output"

/-- What has come of something that may have to wait: a `ready` result, which may be an error, or
`pending` when the transport has nothing yet. -/
inductive Polled (α : Type) where
  | ready (result : Except PumpError α)
  | pending

/-- A client with its transport, the events at hand (`backlog`, oldest first), and what has been
logged (`journal`). -/
structure Pump (σ : Type) where
  client : Client
  transport : σ
  backlog : List Event
  journal : Array Log.Record

namespace Pump

open Log

variable {σ : Type}

/-- A pump at the start of its work, with an empty `backlog` and nothing logged. The client may have
bytes queued already. -/
def new (client : Client) (transport : σ) : Pump σ := ⟨client, transport, [], #[]⟩

/-- The pump that has logged more records, behind those of its `journal`. Nothing else of it
changes. -/
def log (p : Pump σ) (records : List Record) : Pump σ := { p with journal := p.journal ++ records }

/-- Lets the client carry out a command that logs the given records. The result is that of `run`,
and the client is the one that it leaves, also when the command is refused. -/
def command {α : Type} (p : Pump σ) (records : List Record) (run : Client → Client × α) :
    Pump σ × α :=
  let (client, result) := run p.client
  ({ p.log records with client := client }, result)

/-! ### Events -/

/-- The `Level` at which a text of the server is logged. What a server only logs is of interest in
debugging. -/
def levelOf : Severity → Level
  | .error => .error
  | .warning => .warn
  | .info => .info
  | .log => .debug

/-- The record of a text of the server, under the name of the server and at the level of its
severity. -/
def textRecord (severity : Severity) (text : String) : Record :=
  .plain (levelOf severity) .server text

/-- The records that tell of an event. A text of the server is logged as it is (`textRecord`), and
any other event in a sentence of the pump. -/
def eventRecords : Event → List Record
  | .showMessage severity text | .logMessage severity text
  | .showMessageRequest _ severity text _ => [textRecord severity text]
  | .unsupported (some id) method _ =>
    [.plain .debug .pump ("Rejecting unsupported server request " ++ method ++ " (" ++ id.display ++
      ")")]
  | .unsupported none method _ =>
    [.plain .debug .pump ("Ignoring unsupported server notification " ++ method)]
  | .publishDiagnostics _ =>
    [{ Log.Record.plain .info .pump "Diagnostics published" with fields := ["uri", "count"] }]
  | .initializeFailed failure | .shutdownFailed failure =>
    [.plain .warn .pump ("Server returned error: " ++ failure.display)]
  | .initialized capabilities =>
    [.plain .debug .pump ("Lifecycle event: Initialized \x7b capabilities: " ++
      capabilities.outline ++ " \x7d")]
  | .shutdownAcked => [.plain .debug .pump "Lifecycle event: ShutdownAcked"]

/-- The reply to an event, if the server awaits one, and the command that sends it. Only two kinds
of events have one: `showMessageRequest`, and a request that is `unsupported`. -/
def autoReply? : Event → Option (Response × (Client → Client × Except StateError Unit))
  | .showMessageRequest id _ _ _ =>
    some (.success id .null, fun c => c.replyToShowMessageRequest id none)
  | .unsupported (some id) method _ =>
    some (.methodNotFound id method, fun c => c.replyMethodNotFound id method)
  | _ => none

/-- Logs an event and answers it by `autoReply?`. The result is an error if the session does not
allow the reply, and then the event is logged but not handed out. -/
def handle (p : Pump σ) (event : Event) : Pump σ × Except PumpError Unit :=
  -- The event is logged first, so it shows even if the reply is refused.
  let p := p.log (eventRecords event)
  match autoReply? event with
  | none => (p, .ok ())
  | some (response, send) =>
    let (p, result) := p.command (p.client.replyRecords response) send
    (p, result.mapError fun e => .session (.state e))

/-- Dealing with an event leaves the events at hand as they are, so `turn` has to take it off
before. -/
theorem backlog_handle (p : Pump σ) (event : Event) : (p.handle event).1.backlog = p.backlog := by
  unfold handle
  simp only
  split <;> rfl

/-! ### Bytes -/

variable [Transport σ]

/-- Writes every byte that the client has for the server, in one `Transport.write`. Without any the
transport is not called. The bytes of a write that fails have left the client and are lost. -/
def flush (p : Pump σ) : Pump σ × Except PumpError Unit :=
  let (client, bytes) := p.client.drainOutgoing
  -- A client without bytes is the same when it is drained, so `p` is kept.
  if bytes = [] then (p, .ok ())
  else
    let (result, transport) := Transport.write p.transport bytes
    let p := { p with client := client, transport := transport }
    match result with
    | .error e => (p, .error (.io e))
    | .ok () =>
      let written := "EnginePump: Wrote " ++ Decimal.render bytes.length ++ " bytes"
      (p.log [.plain .trace .pump written], .ok ())

/-- Reads once and hands what came to the client, whose events join those at hand. The client keeps
the bytes in two steps, `Client.receive` and `Client.process`, so that what has arrived can be
logged in between. -/
def receive (p : Pump σ) : Pump σ × Polled Unit :=
  let (result, transport) := Transport.read p.transport
  let p := { p with transport := transport }
  match result with
  | .waiting => (p, .pending)
  | .ended => (p, .ready (.error .eof))
  | .failed e => (p, .ready (.error (.io e)))
  | .bytes bytes =>
    let p := { p with client := p.client.receive bytes }
    -- What has arrived is logged even if it turns out to be at fault.
    let (p, result) := p.command (p.client.arrivalRecords bytes.length) Client.process
    match result with
    | .error e => (p, .ready (.error (.session (.protocol e))))
    | .ok events => ({ p with backlog := p.backlog ++ events }, .ready (.ok ()))

/-! ### Turns -/

/-- What a turn comes to: an `event` for the caller, or the next turn (`again`), or the end of the
waiting, by failure or because the transport has nothing yet. -/
inductive Turn where
  /-- An event was dealt with. -/
  | event (event : Event)
  /-- Something was read. -/
  | again
  | failed (error : PumpError)
  | pending

/-- Deals with an event by `handle` and writes what that brought up, so the reply is with the server
before the caller sees the event. -/
def deliver (p : Pump σ) (event : Event) : Pump σ × Turn :=
  match p.handle event with
  | (p, .error e) => (p, .failed e)
  | (p, .ok ()) =>
    match p.flush with
    | (p, .error e) => (p, .failed e)
    | (p, .ok ()) => (p, .event event)

/-- Writes what is queued, then reads once. So no byte for the server is left over while the pump
waits in `Transport.read`. -/
def fetch (p : Pump σ) : Pump σ × Turn :=
  match p.flush with
  | (p, .error e) => (p, .failed e)
  | (p, .ok ()) =>
    match p.receive with
    | (p, .ready (.error e)) => (p, .failed e)
    | (p, .ready (.ok ())) => (p, .again)
    | (p, .pending) => (p, .pending)

/-- One turn of the pump: `deliver` for the first of the events at hand, or `fetch` if there is
none. -/
def turn (p : Pump σ) : Pump σ × Turn :=
  match p.backlog with
  | event :: rest => { p with backlog := rest }.deliver event
  | [] => p.fetch

/-! ### Why turns come to an end -/

/-- How much is left to read, in the measure `Transport.remaining`. Together with the number of
events at hand it goes down from turn to turn. -/
def remaining (p : Pump σ) : Nat := Transport.remaining p.transport

/-- Dealing with an event by `handle` reads nothing. -/
theorem remaining_handle (p : Pump σ) (event : Event) :
    (p.handle event).1.remaining = p.remaining := by
  unfold handle
  simp only
  split <;> rfl

/-- Writing leaves no more to read than there was, by `Transport.remaining_write`. -/
theorem remaining_flush (p : Pump σ) : p.flush.1.remaining ≤ p.remaining := by
  unfold flush
  simp only
  split
  · exact Nat.le_refl _
  · split <;> exact Transport.remaining_write _ _

/-- Writing leaves the `backlog` as it is, whether it succeeds or fails. -/
theorem backlog_flush (p : Pump σ) : p.flush.1.backlog = p.backlog := by
  unfold flush
  simp only
  split
  · rfl
  · split <;> rfl

/-- A read that brings something leaves less to read, by `Transport.remaining_read`. -/
theorem remaining_receive {p p' : Pump σ} (h : p.receive = (p', .ready (.ok ()))) :
    p'.remaining < p.remaining := by
  unfold receive at h
  simp only at h
  split at h
  · cases h
  · cases h
  · cases h
  · next bytes hread =>
    split at h
    · cases h
    · cases h
      exact Transport.remaining_read (Prod.ext hread rfl)

/-- A `deliver` that hands out an event leaves no more to read, and at hand the events behind it. -/
theorem deliver_event {p p' : Pump σ} {e e' : Event} (h : p.deliver e = (p', .event e')) :
    p'.remaining ≤ p.remaining ∧ p'.backlog = p.backlog := by
  have hr := remaining_handle p e
  have hb := backlog_handle p e
  unfold deliver at h
  split at h
  · cases h
  · next p1 hh =>
    rw [hh] at hr hb
    have fr := remaining_flush p1
    have fb := backlog_flush p1
    split at h
    · cases h
    · next p2 hf =>
      rw [hf] at fr fb
      cases h
      exact ⟨hr ▸ fr, hb ▸ fb⟩

/-- A `deliver` does not ask for another turn: it hands the event out or fails. -/
theorem deliver_ne_again {p p' : Pump σ} {e : Event} : p.deliver e ≠ (p', .again) := by
  intro h
  unfold deliver at h
  split at h
  · cases h
  · split at h <;> cases h

/-- A `fetch` that comes by events leaves less to read, since the write before the read leaves no
more. -/
theorem fetch_again {p p' : Pump σ} (h : p.fetch = (p', .again)) : p'.remaining < p.remaining := by
  have fr := remaining_flush p
  unfold fetch at h
  split at h
  · cases h
  · next p1 hf =>
    rw [hf] at fr
    split at h
    · cases h
    · next p2 hr =>
      cases h
      exact Nat.lt_of_lt_of_le (remaining_receive hr) fr
    · cases h

/-- A `fetch` hands out no event. Those that it comes by are handed out one by one in the turns that
follow. -/
theorem fetch_ne_event {p p' : Pump σ} {e : Event} : p.fetch ≠ (p', .event e) := by
  intro h
  unfold fetch at h
  split at h
  · cases h
  · split at h <;> cases h

/-- A turn that asks for another leaves less to read, as only `fetch` does that. -/
theorem turn_again {p p' : Pump σ} (h : p.turn = (p', .again)) : p'.remaining < p.remaining := by
  unfold turn at h
  split at h
  · exact absurd h deliver_ne_again
  · exact fetch_again h

/-- A turn that hands out an event leaves no more to read and one event fewer at hand, as only
`deliver` does that. -/
theorem turn_event {p p' : Pump σ} {e : Event} (h : p.turn = (p', .event e)) :
    p'.remaining ≤ p.remaining ∧ p'.backlog.length < p.backlog.length := by
  unfold turn at h
  split at h
  · next event rest hb =>
    obtain ⟨hr, hl⟩ := deliver_event h
    refine ⟨hr, ?_⟩
    rw [hl, hb]
    exact Nat.lt_succ_self _
  · exact absurd h fetch_ne_event

/-! ### Waiting -/

/-- Takes turns until one hands out an event that is accepted, and answers also how many were handed
out before; `skipped` of them already have been. It ends because every turn that goes on lowers what
is left to read, or leaves that alone and shortens the `backlog`. -/
def waitFrom (accept : Event → Bool) (skipped : Nat) (p : Pump σ) : Pump σ × Nat × Polled Event :=
  match h : p.turn with
  | (p', .event e) =>
    if accept e then (p', skipped, .ready (.ok e)) else waitFrom accept (skipped + 1) p'
  | (p', .again) => waitFrom accept skipped p'
  | (p', .failed e) => (p', skipped, .ready (.error e))
  | (p', .pending) => (p', skipped, .pending)
termination_by (p.remaining, p.backlog.length)
decreasing_by
  · obtain ⟨hr, hl⟩ := turn_event h
    -- An event may come from a read or from those at hand; in the second case one less is at hand.
    rcases Nat.lt_or_eq_of_le hr with hlt | heq
    · exact Prod.Lex.left _ _ hlt
    · rw [heq]
      exact Prod.Lex.right _ hl
  · exact Prod.Lex.left _ _ (turn_again h)

/-- Waits by `waitFrom` for an event that is accepted, and answers how many others came before it.
These have been logged and replied to, and are lost to the caller. -/
def waitFor (p : Pump σ) (accept : Event → Bool) : Pump σ × Nat × Polled Event :=
  p.waitFrom accept 0

/-- The next event, whatever it is: `waitFor` with a test that all of them pass. -/
def nextEvent (p : Pump σ) : Pump σ × Polled Event :=
  let (p, _, result) := p.waitFor fun _ => true
  (p, result)

end Pump

end LspSession
