import LspSession.Proofs.Client.Pending
import LspSession.Proofs.Pump.Traffic

/-!
# `LspSession.Proofs.Handshake.Standing`: where a handshake stands with its server

A handshake looks at the events that its pump hands out, one by one, but its client has handled
whole batches. So the client may be ahead: the moves of the events at hand are made, and nobody has
looked at them. `Standing` is the invariant. The moves that have been looked at, with those of the
events at hand, lead from the start of a session to where the client stands, and the messages of the
client, responses apart, are the ones that go with these moves (`messageOf?`).

The messages that go with the moves of a session without failures are the `script`. What keeps a
handshake to it is that the server can reply to a request once: behind the sending of a request come
no moves, or the grant, or the denial (`Follows.reply_cases`), whatever the server sends.

`Standing.turned` says what one turn makes of the invariant, and `Standing.turns` what turns in a
row make of it. Whatever ends a handshake early leaves messages that belong there (`Ended`): those
that are no responses are a front of the script.
-/

set_option autoImplicit false

namespace LspSession

/-! ### Moves of the server -/

namespace Lifecycle

/-- The move is a reply of the server, a `granted` or a `denied`. The other moves are made by the
client, at a command of the handshake. -/
def Move.isReply : Move → Bool
  | .granted _ | .denied _ => true
  | .sent _ | .exit => false

/-- The move is a `sent`. The number of these is the number that the next request is given. -/
def Move.isSent : Move → Bool
  | .sent _ => true
  | _ => false

/-- The moves of a `history` lead to the place that it is about, however many requests were denied
on the way. -/
theorem follows_history (m n : Nat) (s : Lifecycle) : Follows .start (history m n s) s := by
  have hinitialized := follows_attempts .initialization m
  have hfailed := hinitialized.append (follows_failures .shutdown n)
  -- Each place is reached by attempts that failed, one that did not, and the moves since.
  cases s with
  | uninitialized => exact follows_failures .initialization m
  | awaitingInitializeAck =>
    exact (follows_failures .initialization m).append (.single (.sent .initialization))
  | normal => exact hfailed
  | awaitingShutdownAck => exact hfailed.append (.single (.sent .shutdown))
  | shutdown => exact hinitialized.append (follows_attempts .shutdown n)
  | exited => exact follows_course m n

/-- Moves behind a `history` lead on from the place that it is about, because moves lead to one
place only (`Follows.unique`). -/
theorem Follows.of_history {m n : Nat} {s t : Lifecycle} {moves : List Move}
    (h : Follows .start (history m n s ++ moves) t) : Follows s moves t := by
  obtain ⟨u, hhistory, hmoves⟩ := h.of_append
  rw [(follows_history m n s).unique hhistory]
  exact hmoves

/-- Where no reply is awaited, nothing is moved by moves that are all `isReply`. A server that
replies without having been asked is refused before it comes to a move. -/
theorem Follows.eq_nil_of_replies {s t : Lifecycle} {moves : List Move} (h : Follows s moves t)
    (hreplies : ∀ m ∈ moves, m.isReply = true) (hs : s.awaited? = none) : moves = [] := by
  cases h with
  | nil => rfl
  | cons m tail =>
    have hm := hreplies m List.mem_cons_self
    cases m with
    | granted kind | denied kind => cases kind <;> cases hs
    | sent | exit => cases hm

/-- A request that was sent has not been replied to, or was granted, or was denied. This is what
keeps a handshake to its script whatever the server sends. -/
theorem Follows.reply_cases {kind : ClientRequest} {t : Lifecycle} {moves : List Move}
    (h : Follows kind.target moves t) (hreplies : ∀ m ∈ moves, m.isReply = true) :
    moves = [] ∨ moves = [.granted kind] ∨ moves = [.denied kind] := by
  generalize hs : kind.target = s at h
  cases h with
  | nil => exact Or.inl rfl
  | cons m tail =>
    rename_i rest
    have hm := hreplies m List.mem_cons_self
    -- Behind the reply no other is awaited.
    have hlast (h : m.target.awaited? = none) : rest = [] :=
      tail.eq_nil_of_replies (fun m' hm' => hreplies m' (List.mem_cons_of_mem m hm')) h
    have hkind {other : ClientRequest} (h : kind.target = other.target) : other = kind :=
      Option.some.inj ((awaited?_eq_some_iff.mpr h).symm.trans (awaited?_eq_some_iff.mpr rfl))
    cases m with
    | granted other =>
      rw [hlast (by cases other <;> rfl), hkind hs]
      exact Or.inr (Or.inl rfl)
    | denied other =>
      rw [hlast (by cases other <;> rfl), hkind hs]
      exact Or.inr (Or.inr rfl)
    | sent | exit => cases hm

end Lifecycle

open Lifecycle (Move Follows history)

/-- What an event moves, it moves as a reply: the four events with a move are the grants and the
denials. -/
theorem Event.isReply_of_mem_moves {events : List Event} {m : Move}
    (h : m ∈ events.filterMap Event.move?) : m.isReply = true := by
  obtain ⟨event, -, hevent⟩ := List.mem_filterMap.mp h
  cases event with
  | initialized | initializeFailed | shutdownAcked | shutdownFailed =>
    cases hevent
    rfl
  | _ => cases hevent

/-- A call counts the requests that it sends: the next number goes up by one for each `sent` among
its moves. The numbers are those of a word and wrap round. -/
theorem Client.Performed.nextId_eq {c next : Client} {op : Client.Operation}
    {outcome : Client.Outcome} (h : Client.Performed c op next outcome) :
    next.nextId = c.nextId + Int64.ofNat ((op.moves outcome).countP Move.isSent) := by
  have hnone : c.nextId = c.nextId + Int64.ofNat ([].countP Move.isSent) :=
    (Int64.add_zero _).symm
  cases h with
  | fed h =>
    cases h with
    | waiting | misframed | rejected => exact hnone
    | accepted hdecode hbatch =>
      rename_i events
      -- What comes from the server is counted by no request of the client.
      have hreplies : ((events.filterMap Event.move?) ++ []).countP Move.isSent = 0 := by
        rw [List.append_nil, List.countP_eq_zero]
        intro m hm
        have hreply := Event.isReply_of_mem_moves hm
        cases m with
        | granted | denied => exact Bool.false_ne_true
        | sent | exit => cases hreply
      show _ = _ + Int64.ofNat (((events.filterMap Event.move?) ++ []).countP Move.isSent)
      rw [hreplies]
      exact (Client.handledAll_of_handleAll hbatch).pending_subset.1.trans hnone
  | drained | exited => exact hnone
  | requested hop hstate =>
    rw [Client.Operation.moves_of_request? hop]
    rfl
  | replied hop hstate hawaiting =>
    cases op with
    | replyToShowMessageRequest | replyWithError | replyMethodNotFound => exact hnone
    | _ => cases hop
  | refused hrefusal =>
    rw [Client.Operation.moves_of_refusal op hrefusal]
    exact hnone

/-- The messages that are no responses, so the requests and the notifications. -/
def Message.calls (messages : List Message) : List Message := messages.filter (!·.isResponse)

/-- The `Message.calls` of two rows of messages are those of the one and then those of the other. -/
theorem Message.calls_append (first second : List Message) :
    calls (first ++ second) = calls first ++ calls second := List.filter_append _ _

/-- The calls of a front are a front of the calls. So messages that belong to the `script` leave a
front that does. -/
theorem Message.calls_prefix_append (first second : List Message) :
    calls first <+: calls (first ++ second) := by
  rw [calls_append]
  exact List.prefix_append _ _

namespace Handshake

open Pump (Ledger Flushed Answered Fetched Turned Turns Turn)

/-! ### Messages of a handshake -/

/-- The request to initialize, the first of its client, so its number is zero. Its parameters are
those that `Client.initializeParams` makes of the options. -/
def initializeMessage (options : InitializeOptions) : Message :=
  .request ⟨.integer 0, "initialize", some (Client.initializeParams .default options)⟩

/-- The notification `initialized`, which the client sends by itself when the grant comes. -/
def initializedMessage : Message := .notification ⟨"initialized", some (.object [])⟩

/-- The request to shut down, the second of its client, with the number one and without parameters.
-/
def shutdownMessage : Message := .request ⟨.integer 1, "shutdown", none⟩

/-- The notification `exit`, the last message of a session that ends in order. -/
def exitMessage : Message := .notification ⟨"exit", none⟩

/-- The messages of a handshake in which no request is `denied`, responses apart. A handshake that
fails on the way has sent a front of these. -/
def script (options : InitializeOptions) : List Message :=
  [initializeMessage options, initializedMessage, shutdownMessage, exitMessage]

/-- The message that goes with a `Lifecycle.Move` of a handshake. Only the grant of the request to
initialize has one among the replies, the notification that the client sends by itself. -/
def messageOf? (options : InitializeOptions) : Move → Option Message
  | .sent .initialization => some (initializeMessage options)
  | .granted .initialization => some initializedMessage
  | .sent .shutdown => some shutdownMessage
  | .exit => some exitMessage
  | .granted .shutdown | .denied _ => none

/-- The message that goes with an event (`Event.message?`) goes with its move. So the messages of a
batch can be counted by its moves. -/
theorem filterMap_message? (options : InitializeOptions) (events : List Event) :
    events.filterMap Event.message? =
      (events.filterMap Event.move?).filterMap (messageOf? options) := by
  rw [List.filterMap_filterMap]
  congr 1
  funext event
  cases event <;> rfl

/-- No message that `messageOf?` gives is a response. Responses go with the requests of the server,
which move nothing. -/
theorem calls_messageOf? (options : InitializeOptions) (moves : List Move) :
    Message.calls (moves.filterMap (messageOf? options)) =
      moves.filterMap (messageOf? options) := by
  refine List.filter_eq_self.mpr fun message hmem => ?_
  obtain ⟨move, -, hmove⟩ := List.mem_filterMap.mp hmem
  cases move with
  | sent kind | granted kind =>
    cases kind <;> cases hmove <;> rfl
  | denied | exit =>
    cases hmove <;> rfl

/-- The messages up to a request, and those of its reply, are a front of the `script`. There are
three cases for the reply, by `Follows.reply_cases`. -/
theorem messages_prefix_script (options : InitializeOptions) {kind : ClientRequest}
    {moves : List Move} {t : Lifecycle} (h : Follows kind.target moves t)
    (hreplies : ∀ m ∈ moves, m.isReply = true) :
    (history 0 0 kind.target ++ moves).filterMap (messageOf? options) <+: script options := by
  rcases h.reply_cases hreplies with rfl | rfl | rfl <;> cases kind <;> exact ⟨_, rfl⟩

/-! ### Standing -/

/-- A client of a handshake that has made the moves: it has the `Config.default`, its fields agree
with its state, its next number counts the requests sent, and its state is where the moves lead. -/
structure HasMade (c : Client) (moves : List Move) : Prop where
  config_eq : c.config = .default
  consistent : c.Consistent
  nextId_eq : c.nextId = Int64.ofNat (moves.countP Move.isSent)
  follows : Follows .start moves c.state

namespace HasMade

variable {c : Client} {moves : List Move}

/-- A new client has made no moves. -/
theorem new : HasMade .new [] := ⟨rfl, Client.consistent_ofConfig _, rfl, .nil _⟩

/-- What a client has made shows in its core: the buffers have no part in `HasMade`. -/
theorem congr {d : Client} (h : HasMade c moves) (hcore : d.core = c.core) : HasMade d moves := by
  have hconfig : d.config = c.config := (congrArg Client.config hcore :)
  have hpending : d.pending = c.pending := (congrArg Client.pending hcore :)
  have hcapabilities : d.capabilities = c.capabilities := (congrArg Client.capabilities hcore :)
  have hnextId : d.nextId = c.nextId := (congrArg Client.nextId hcore :)
  have hstate : d.state = c.state := (congrArg Client.state hcore :)
  refine ⟨hconfig.trans h.config_eq, ⟨?_, ?_⟩, hnextId.trans h.nextId_eq, ?_⟩
  · rw [hpending, hstate]
    exact h.consistent.kinds_pending
  · rw [hcapabilities, hstate]
    exact h.consistent.isSome_capabilities
  · rw [hstate]
    exact h.follows

/-- A call makes its `Operation.moves`, and these are put behind the ones made before. A call that
is refused makes none. -/
theorem perform (h : HasMade c moves) (op : Client.Operation) :
    HasMade (c.perform op).1 (moves ++ op.moves (c.perform op).2) := by
  -- The relation says all that a call can do, and its moves lead on from where the client was.
  have hperformed := Client.performed_perform c op
  obtain ⟨hconsistent, hfollows⟩ := hperformed.follows h.consistent
  refine ⟨hperformed.config_eq.trans h.config_eq, hconsistent, ?_, h.follows.append hfollows⟩
  rw [hperformed.nextId_eq, h.nextId_eq, List.countP_append, Int64.ofNat_add]

end HasMade

variable {σ : Type} [Transport σ]

/-- Whatever has come of a handshake, what went to the server is the frames of messages that belong
there. If no write failed, the first of them is the request to initialize. -/
structure Ended (options : InitializeOptions) (traffic : List Traffic) (messages : List Message) :
    Prop where
  carries : Carries Frame.defaultLimit traffic messages
  calls_front : Message.calls messages <+: script options
  head?_eq : (∀ bytes, .refused bytes ∉ traffic) → messages.head? = (script options).head?

/-- The moves that a handshake has looked at, and the messages that it has sent and that wait in its
client. The client may be ahead by the moves of the events at hand, and these count as made. -/
structure Standing (options : InitializeOptions) (p : Pump (Recorded σ)) (moves : List Move)
    (sent waiting : List Message) : Prop where
  ledger : p.Ledger sent waiting
  /-- The moves of the events at hand have been made. -/
  hasMade : HasMade p.client (moves ++ p.backlog.filterMap Event.move?)
  calls_eq : Message.calls (sent ++ waiting) =
    (moves ++ p.backlog.filterMap Event.move?).filterMap (messageOf? options)
  head?_eq : (sent ++ waiting).head? = (script options).head?
  /-- No event comes to hand before the first message is sent. -/
  begun : p.backlog = [] ∨ sent ≠ []

/-- What is so of a handshake after a turn, by what the turn came to: it stands, with the event
looked at if one was handed out, or it is `Ended`. -/
def After (options : InitializeOptions) (p : Pump (Recorded σ)) (moves : List Move) : Turn → Prop
  | .event event => ∃ sent, Standing options p (moves ++ event.move?.toList) sent []
  | .again => ∃ sent waiting, Standing options p moves sent waiting
  | .failed _ | .pending => ∃ messages, Ended options p.transport.history messages

namespace Standing

variable {options : InitializeOptions} {p q : Pump (Recorded σ)} {moves : List Move}
  {sent waiting : List Message}

omit [Transport σ] in
/-- What has been sent belongs there, if all that the client has for the server does and the first
message is among what has been sent. -/
theorem ended (h : Standing options p moves sent waiting)
    (hfront : Message.calls (sent ++ waiting) <+: script options) (hsent : sent ≠ []) :
    Ended options p.transport.history sent where
  carries := by
    have hcarries := h.ledger.carries
    rw [h.hasMade.config_eq] at hcarries
    exact hcarries
  calls_front := (Message.calls_prefix_append sent waiting).trans hfront
  head?_eq := fun _ => by
    rw [← h.head?_eq, List.head?_append_of_ne_nil _ hsent]

omit [Transport σ] in
/-- There is always something that has been sent or waits, since the first message is put there
before anything else happens. -/
theorem ne_nil (h : Standing options p moves sent waiting) : sent ++ waiting ≠ [] := by
  intro hnil
  have hhead := h.head?_eq
  rw [hnil] at hhead
  cases hhead

/-! ### Turns -/

/-- Writing by `flush` sends the messages that wait, all of them and in their order, and leaves none
waiting. -/
theorem flushed (h : Standing options p moves sent waiting) (hflushed : Flushed p q (.ok ())) :
    Standing options q moves (sent ++ waiting) [] := by
  have hledger := h.ledger.flushed hflushed
  obtain ⟨hclient, hbacklog⟩ := hflushed.kept
  have hcore : q.client.core = p.client.core := by
    rw [hclient]
    rfl
  refine ⟨hledger, ?_, ?_, ?_, Or.inr h.ne_nil⟩
  · rw [hbacklog]
    exact h.hasMade.congr hcore
  · rw [hbacklog, List.append_nil]
    exact h.calls_eq
  · rw [List.append_nil]
    exact h.head?_eq

/-- A write that fails leaves what was sent before. Part of a frame may have gone out, which is why
`Ended` says nothing of the bytes of such a write. -/
theorem unwritten (h : Standing options p moves sent waiting)
    (hfront : Message.calls (sent ++ waiting) <+: script options) {e : PumpError}
    (hflushed : Flushed p q (.error e)) : Ended options q.transport.history sent := by
  obtain ⟨hcarries, bytes, hrefused⟩ := h.ledger.unwritten hflushed
  have hconfig : q.client.config = .default := by
    rw [hflushed.kept.1]
    exact h.hasMade.config_eq
  rw [hconfig] at hcarries
  exact ⟨hcarries, (Message.calls_prefix_append sent waiting).trans hfront,
    fun hnone => absurd hrefused (hnone bytes)⟩

omit [Transport σ] in
/-- An event that is dealt with has been looked at, so its move goes from those at hand to those
looked at. The response to it is no call. -/
theorem answered (h : Standing options p moves sent waiting) {event : Event} {rest : List Event}
    (hbacklog : p.backlog = event :: rest)
    (hanswered : Answered { p with backlog := rest } event q (.ok ())) :
    ∃ waiting', Standing options q (moves ++ event.move?.toList) sent waiting' ∧
      Message.calls (sent ++ waiting') = Message.calls (sent ++ waiting) := by
  have hledger : Ledger { p with backlog := rest } sent waiting :=
    ⟨h.ledger.carries, h.ledger.queues⟩
  have hcore : q.client.core = p.client.core := by
    rw [hanswered.client_eq]
    exact p.client.core_afterReply event
  have hmoves : (moves ++ event.move?.toList) ++ q.backlog.filterMap Event.move? =
      moves ++ p.backlog.filterMap Event.move? := by
    rw [hanswered.kept.2, hbacklog, filterMap_cons_eq_append, List.append_assoc]
  -- The event goes from those at hand to those that were looked at, and its reply is a response.
  have hcalls : Message.calls (sent ++ (waiting ++ event.response?.toList.map .response)) =
      Message.calls (sent ++ waiting) := by
    rw [← List.append_assoc, Message.calls_append (sent ++ waiting)]
    cases event.response? <;> exact List.append_nil _
  refine ⟨_, ⟨hledger.answered hanswered, ?_, ?_, ?_, Or.inr ?_⟩, hcalls⟩
  · rw [hmoves]
    exact h.hasMade.congr hcore
  · rw [hmoves, hcalls]
    exact h.calls_eq
  · rw [← List.append_assoc, List.head?_append, h.head?_eq]
    rfl
  · rcases h.begun with hnone | hsent
    · rw [hnone] at hbacklog
      cases hbacklog
    · exact hsent

/-- A read that gives bytes without a fault adds the moves of their events to those at hand. Every
other outcome of a read ends the handshake. -/
theorem fetched (h : Standing options p moves sent []) (hsent : sent ≠ [])
    (hfront : Message.calls sent <+: script options) {turn : Turn}
    (hfetched : Fetched p q turn) : After options q moves turn := by
  -- A read sends nothing, so what was sent before is what was sent.
  have hended {result : ReadResult} {t : Recorded σ}
      (hread : Transport.read p.transport = (result, t)) :
      ∃ messages, Ended options t.history messages := by
    obtain ⟨hhistory, hcarries⟩ := h.ledger.read hread
    rw [h.hasMade.config_eq] at hcarries
    refine ⟨sent, hcarries, hfront, fun _ => ?_⟩
    rw [← h.head?_eq, List.append_nil]
  cases hfetched with
  | dry hread hturn =>
    rename_i result t
    cases result with
    | bytes bytes => cases hturn
    | ended | failed | waiting =>
      cases hturn
      exact hended hread
  | faulty journal hread hfeed => exact hended hread
  | fed journal hread hfeed =>
    rename_i bytes t events
    have hmoves : moves ++ (p.backlog ++ events).filterMap Event.move? =
        (moves ++ p.backlog.filterMap Event.move?) ++ events.filterMap Event.move? := by
      rw [List.filterMap_append, List.append_assoc]
    have houtcome : (p.client.perform (.feed bytes)).2 = .fed (.ok events) :=
      congrArg Client.Outcome.fed hfeed
    have hhasMade : HasMade (p.client.feed bytes).1
        (moves ++ (p.backlog ++ events).filterMap Event.move?) := by
      have hperformed := h.hasMade.perform (.feed bytes)
      rw [houtcome] at hperformed
      rw [hmoves, ← List.append_nil (events.filterMap Event.move?)]
      exact hperformed
    refine ⟨sent, _, h.ledger.fed hread hfeed _ _, hhasMade, ?_, ?_, Or.inr hsent⟩
    · have hbefore := h.calls_eq
      rw [List.append_nil] at hbefore
      show Message.calls (sent ++ events.filterMap Event.message?) =
        (moves ++ (p.backlog ++ events).filterMap Event.move?).filterMap (messageOf? options)
      rw [hmoves, Message.calls_append, hbefore, filterMap_message? options, calls_messageOf?,
        ← List.filterMap_append]
    · have hhead := h.head?_eq
      rw [List.append_nil] at hhead
      show (sent ++ events.filterMap Event.message?).head? = _
      rw [List.head?_append_of_ne_nil _ hsent, hhead]

/-- A turn keeps a handshake standing, or ends it (`After`). There are as many cases as ways in
which a turn can go. -/
theorem turned (h : Standing options p moves sent waiting)
    (hfront : Message.calls (sent ++ waiting) <+: script options) {turn : Turn}
    (hturned : Turned p q turn) : After options q moves turn := by
  cases hturned with
  | event hbacklog hanswered hflushed =>
    -- An event is handed out after it was dealt with and what waited was written.
    obtain ⟨waiting', hstanding, -⟩ := h.answered hbacklog hanswered
    exact ⟨_, hstanding.flushed hflushed⟩
  | refused hbacklog hanswered =>
    -- The event came with a read, and the first message was sent before that.
    have hsent : sent ≠ [] := h.begun.resolve_left fun hnone => by
      rw [hnone] at hbacklog
      cases hbacklog
    refine ⟨sent, ?_⟩
    rw [hanswered.kept.1]
    exact h.ended hfront hsent
  | unwritten hbacklog hanswered hflushed =>
    obtain ⟨waiting', hstanding, hcalls⟩ := h.answered hbacklog hanswered
    exact ⟨_, hstanding.unwritten (hcalls ▸ hfront) hflushed⟩
  | unread hbacklog hflushed => exact ⟨_, h.unwritten hfront hflushed⟩
  | fetched hbacklog hflushed hfetched =>
    exact (h.flushed hflushed).fetched h.ne_nil hfront hfetched

/-! ### Waiting for a reply -/

omit [Transport σ] in
/-- While the reply to a request is awaited, what the client has for the server belongs there. The
moves behind the request are replies, and by `messages_prefix_script` they fit the script. -/
theorem calls_front {kind : ClientRequest} {seen : List Event}
    (h : Standing options p (history 0 0 kind.target ++ seen.filterMap Event.move?) sent waiting) :
    Message.calls (sent ++ waiting) <+: script options := by
  have hfollows := h.hasMade.follows
  rw [List.append_assoc, ← List.filterMap_append] at hfollows
  rw [h.calls_eq, List.append_assoc, ← List.filterMap_append]
  exact messages_prefix_script options (hfollows.of_history) fun m hm =>
    Event.isReply_of_mem_moves hm

/-- Turns in a row that do not end a handshake have it look at their events. The induction is on the
turns, and `turned` is its step. -/
theorem turns {kind : ClientRequest} {accept : Event → Bool} {seen events : List Event}
    (h : Standing options p (history 0 0 kind.target ++ seen.filterMap Event.move?) sent waiting)
    (hturns : Turns accept p events q) :
    ∃ sent' waiting', Standing options q
      (history 0 0 kind.target ++ (seen ++ events).filterMap Event.move?) sent' waiting' := by
  induction hturns generalizing seen sent waiting with
  | nil p => exact ⟨sent, waiting, by rwa [List.append_nil]⟩
  | again hturn tail ih =>
    rename_i p q last events
    have hturned := Pump.turned_turn p
    rw [hturn] at hturned
    obtain ⟨sent', waiting', hnext⟩ := h.turned h.calls_front hturned
    exact ih hnext
  | event hturn haccept tail ih =>
    rename_i p q last event events
    have hturned := Pump.turned_turn p
    rw [hturn] at hturned
    obtain ⟨sent', hnext⟩ := h.turned h.calls_front hturned
    rw [List.append_assoc, ← filterMap_concat_eq_append] at hnext
    rw [List.append_cons]
    exact ih hnext

end Standing

end Handshake

end LspSession
