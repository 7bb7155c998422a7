import LspSession.Handshake.Converse
import LspSession.Proofs.Handshake.Standing
import LspSession.Proofs.Pump.Delivery

/-!
# `LspSession.Proofs.Handshake.Course`: a handshake keeps to its script with every server

A handshake asks its server to initialize, asks it to shut down and tells it to exit, and waits for
a reply in between. `script_of_converse` says what that comes to over every transport, so for every
output of the server in every chunking, and for writes and waits that fail as well. The client never
refuses a command of the handshake. The bytes that went to the server are the frames of messages
that begin with the request to initialize. The calls among them are a front of the script, and the
responses among them go to requests that had come from the server. If the handshake succeeds, the
calls are the whole script, the last message is the exit, and the session has ended with nothing
pending.

Between two steps the handshake stands at rest, at a place where no reply is awaited. There the
events at hand move nothing (`Standing.at_rest`), so the client stands where the handshake believes
it to stand, and allows the next command. A wait ends with the reply or ends the handshake
(`Waited`). That a handshake does come to its end is shown with a server that grants what it is
asked (`script_of_willing`).
-/

set_option autoImplicit false

namespace LspSession

open Lifecycle (Move Follows history)

namespace Client

/-- A session in the state `normal` allows the request to shut down, and its number is the next one
of the client. -/
theorem perform_sendShutdown {c : Client} (h : c.state = .normal) :
    (c.perform .sendShutdown).2 = .requested (.ok (.integer c.nextId)) := by
  have hok : c.state.require "shutdown" .normal = .ok () :=
    (Lifecycle.require_eq_ok_iff _ _ _).mpr h
  simp only [perform, sendShutdown, hok]
  rfl

/-- A session that has been shut down allows the exit. It is a notification, so no reply to it is
awaited. -/
theorem perform_sendExit {c : Client} (h : c.state = .shutdown) :
    (c.perform .sendExit).2 = .done (.ok ()) := by
  have hok : c.state.require "exit" .shutdown = .ok () :=
    (Lifecycle.require_eq_ok_iff _ _ _).mpr h
  simp only [perform, sendExit, hok]

end Client

namespace Handshake

variable {σ : Type} [Transport σ]

/-! ### The record of a handshake -/

omit [Transport σ] in
/-- A command takes no notice of the record of its `Recorded` transport: it only writes to the
buffer of the client. -/
theorem plain_command {α : Type} (p : Pump (Recorded σ)) (records : List Log.Record)
    (run : Client → Client × α) :
    p.plain.command records run = ((p.command records run).1.plain, (p.command records run).2) :=
  rfl

/-- A wait takes no notice of the record of its transport. The limit and the result of the wait are
those of `Pump.plain_waitFor`. -/
theorem plain_waitUntil (operation : String) (limit : Nat) (accept : Event → Bool)
    (p : Pump (Recorded σ)) :
    waitUntil operation limit accept p.plain =
      ((waitUntil operation limit accept p).1.plain, (waitUntil operation limit accept p).2) := by
  have hwithin : within limit p.plain = (within limit p).plain := rfl
  unfold waitUntil
  rw [hwithin, Pump.plain_waitFor]
  obtain ⟨q, skipped, result⟩ := (within limit p).waitFor accept
  simp only
  cases bounded operation limit result <;> rfl

/-- Asking a server to initialize by `initializeServer` takes no notice of the record of the
transport: each of its steps does not, and the result of one decides the next. -/
theorem plain_initializeServer (options : InitializeOptions) (limit : Nat)
    (p : Pump (Recorded σ)) :
    initializeServer options limit p.plain =
      ((initializeServer options limit p).1.plain, (initializeServer options limit p).2) := by
  have hclient : p.plain.client = p.client := rfl
  unfold initializeServer
  rw [hclient, plain_command]
  obtain ⟨q, result⟩ := p.command (p.client.sendInitializeRecords options)
    fun c => c.sendInitialize options
  cases result with
  | error e => rfl
  | ok id =>
    simp only
    rw [plain_waitUntil]
    obtain ⟨r, result⟩ := waitUntil "initialize" limit isInitializeReply q
    cases result with
    | error e => rfl
    | ok event => cases event <;> rfl

/-- Asking a server to shut down by `shutDownServer` takes no notice of the record of the transport.
-/
theorem plain_shutDownServer (limit : Nat) (p : Pump (Recorded σ)) :
    shutDownServer limit p.plain =
      ((shutDownServer limit p).1.plain, (shutDownServer limit p).2) := by
  have hclient : p.plain.client = p.client := rfl
  unfold shutDownServer
  rw [hclient, plain_command]
  obtain ⟨q, result⟩ := p.command p.client.sendShutdownRecords fun c => c.sendShutdown
  cases result with
  | error e => rfl
  | ok id =>
    simp only
    rw [plain_waitUntil]
    obtain ⟨r, result⟩ := waitUntil "shutdown" limit isShutdownReply q
    cases result with
    | error e => rfl
    | ok event => cases event <;> rfl

/-- Telling a server to exit by `dismissServer` takes no notice of the record of the transport. -/
theorem plain_dismissServer (limit : Nat) (p : Pump (Recorded σ)) :
    dismissServer limit p.plain = ((dismissServer limit p).1.plain, (dismissServer limit p).2) := by
  have hclient : p.plain.client = p.client := rfl
  have hwithin (q : Pump (Recorded σ)) : within limit q.plain = (within limit q).plain := rfl
  unfold dismissServer
  rw [hclient, plain_command]
  obtain ⟨q, result⟩ := p.command p.client.sendExitRecords fun c => c.sendExit
  cases result with
  | error e => rfl
  | ok done =>
    simp only
    rw [hwithin, Pump.plain_flush]
    obtain ⟨r, result⟩ := (within limit q).flush
    cases result <;> rfl

/-- A handshake takes no notice of the record of its transport: over `p.plain` it does what it does
over `p`. So what is proved of a handshake with a record is true of one without. -/
theorem plain_converse (options : InitializeOptions) (limit : Nat) (p : Pump (Recorded σ)) :
    converse options limit p.plain =
      ((converse options limit p).1.plain, (converse options limit p).2) := by
  unfold converse
  rw [plain_initializeServer]
  obtain ⟨q, result⟩ := initializeServer options limit p
  cases result with
  | error e => rfl
  | ok done =>
    simp only
    rw [plain_shutDownServer]
    obtain ⟨r, result⟩ := shutDownServer limit q
    cases result with
    | error e => rfl
    | ok done => exact plain_dismissServer limit r

/-! ### Commands -/

namespace Standing

variable {options : InitializeOptions} {p q : Pump (Recorded σ)} {moves : List Move}
  {sent waiting : List Message}

omit [Transport σ] in
/-- Logging and timing change nothing about where a handshake stands. Only the client, the traffic
and the events at hand have a part in `Standing`. -/
theorem congr (h : Standing options p moves sent waiting) (hclient : q.client = p.client)
    (hhistory : q.transport.history = p.transport.history) (hbacklog : q.backlog = p.backlog) :
    Standing options q moves sent waiting := by
  refine ⟨⟨?_, ?_⟩, ?_, ?_, h.head?_eq, ?_⟩
  · rw [hclient, hhistory]
    exact h.ledger.carries
  · rw [hclient, hhistory]
    exact h.ledger.queues
  · rw [hclient, hbacklog]
    exact h.hasMade
  · rw [hbacklog]
    exact h.calls_eq
  · rw [hbacklog]
    exact h.begun

omit [Transport σ] in
/-- Where no reply is awaited, the events at hand move nothing, and the client stands where the
moves that were looked at lead. So the handshake and its client agree, and the next command is
allowed. -/
theorem at_rest {s : Lifecycle} (h : Standing options p (history 0 0 s) sent waiting)
    (hs : s.awaited? = none) :
    p.backlog.filterMap Event.move? = [] ∧ p.client.state = s ∧
      p.client.nextId = Int64.ofNat ((history 0 0 s).countP Move.isSent) := by
  -- What the events at hand move, they move from `s`, where no reply moves anything.
  have hnone := h.hasMade.follows.of_history.eq_nil_of_replies
    (fun m hm => Event.isReply_of_mem_moves hm) hs
  have hhasMade := h.hasMade
  rw [hnone, List.append_nil] at hhasMade
  exact ⟨hnone, hhasMade.follows.unique (Lifecycle.follows_history 0 0 s), hhasMade.nextId_eq⟩

omit [Transport σ] in
/-- A command at rest makes its move, and its message waits in the client. The events at hand stay
as they are and still move nothing. -/
theorem commanded (h : Standing options p moves sent waiting)
    (hnone : p.backlog.filterMap Event.move? = []) {op : Client.Operation} {move : Move}
    (hop : op.isCommand = true) (hmoves : op.moves (p.client.perform op).2 = [move])
    (hmessages : op.messages p.client.config (p.client.perform op).2 =
      (messageOf? options move).toList) (journal : Array Log.Record) :
    Standing options { p with client := (p.client.perform op).1, journal := journal }
      (moves ++ [move]) sent (waiting ++ (messageOf? options move).toList) := by
  have hledger := h.ledger.commanded hop journal
  have hhasMade := h.hasMade.perform op
  have hcalls := h.calls_eq
  rw [hmessages] at hledger
  rw [hnone, List.append_nil] at hhasMade hcalls
  rw [hmoves] at hhasMade
  have hmessage : (messageOf? options move).toList = [move].filterMap (messageOf? options) :=
    (filterMap_concat_eq_append _ [] move).symm
  refine ⟨hledger, ?_, ?_, ?_, h.begun⟩
  · show HasMade _ (_ ++ p.backlog.filterMap Event.move?)
    rw [hnone, List.append_nil]
    exact hhasMade
  · show _ = List.filterMap _ (_ ++ p.backlog.filterMap Event.move?)
    rw [hnone, List.append_nil, ← List.append_assoc, Message.calls_append, hcalls, hmessage,
      calls_messageOf?, ← List.filterMap_append]
  · rw [← List.append_assoc, List.head?_append, h.head?_eq]
    rfl

end Standing

/-! ### Waiting -/

/-- The event is the reply of the server to a request, a `granted` or a `denied` of it. -/
def isReplyTo : ClientRequest → Event → Bool
  | .initialization => isInitializeReply
  | .shutdown => isShutdownReply

/-- A reply to a request grants or denies it. With `Standing` this says where the client is when the
wait for the reply ends. -/
theorem move?_of_isReplyTo {kind : ClientRequest} {event : Event}
    (h : isReplyTo kind event = true) :
    event.move? = some (.granted kind) ∨ event.move? = some (.denied kind) := by
  cases kind with
  | initialization =>
    cases event with
    | initialized => exact Or.inl rfl
    | initializeFailed => exact Or.inr rfl
    | _ => cases h
  | shutdown =>
    cases event with
    | shutdownAcked => exact Or.inl rfl
    | shutdownFailed => exact Or.inr rfl
    | _ => cases h

/-- What a wait for the reply to a request comes to: the grant, with the handshake standing at the
`goal` of the request; the denial, or an error that is no refused command, with the handshake at its
end. -/
inductive Waited (options : InitializeOptions) (kind : ClientRequest) (p : Pump (Recorded σ)) :
    Except HandshakeError Event → Prop where
  | granted {event : Event} {sent : List Message} (hmove : event.move? = some (.granted kind))
      (hstanding : Standing options p (history 0 0 kind.goal) sent []) :
    Waited options kind p (.ok event)
  | denied {event : Event} {messages : List Message} (hmove : event.move? = some (.denied kind))
      (hended : Ended options p.transport.history messages) :
    Waited options kind p (.ok event)
  | failed {e : HandshakeError} {messages : List Message}
      (herror : ∀ refusal, e ≠ .command refusal)
      (hended : Ended options p.transport.history messages) :
    Waited options kind p (.error e)

namespace Standing

variable {options : InitializeOptions} {p : Pump (Recorded σ)} {kind : ClientRequest}
  {sent waiting : List Message}

omit [Transport σ] in
/-- The grant of a request is the only move behind its sending. Whatever else was `seen` while
waiting moved nothing, because the server can reply only once. -/
theorem granted {seen : List Event} {event : Event}
    (h : Standing options p (history 0 0 kind.target ++ (seen ++ [event]).filterMap Event.move?)
      sent waiting)
    (hmove : event.move? = some (.granted kind)) :
    Standing options p (history 0 0 kind.goal) sent waiting := by
  have hseen : (seen ++ [event]).filterMap Event.move? =
      seen.filterMap Event.move? ++ [.granted kind] := by
    rw [filterMap_concat_eq_append, hmove]
    rfl
  -- With the grant in a row of one move at most, there is nothing before it.
  have hfollows := h.hasMade.follows
  rw [List.append_assoc, ← List.filterMap_append] at hfollows
  have hcases := hfollows.of_history.reply_cases fun m hm => Event.isReply_of_mem_moves hm
  rw [List.filterMap_append, hseen, List.append_assoc] at hcases
  have honly {front rest : List Move} {m m' : Move} (h : front ++ ([m] ++ rest) = [m']) :
      front = [] := by
    rcases List.append_eq_singleton_iff.mp h with ⟨hnil, -⟩ | ⟨-, hrest⟩
    · exact hnil
    · cases hrest
  have hnone : seen.filterMap Event.move? = [] := by
    rcases hcases with hcase | hcase | hcase
    · exact (List.append_eq_nil_iff.mp hcase).1
    · exact honly hcase
    · exact honly hcase
  have hgoal : history 0 0 kind.target ++ [.granted kind] = history 0 0 kind.goal := by
    cases kind <;> rfl
  rw [hseen, hnone, List.nil_append, hgoal] at h
  exact h

/-- A wait for the reply to a request ends with the reply, or ends the handshake. The turns before
the last keep the invariant `Standing`, and the last one decides. -/
theorem waited (h : Standing options p (history 0 0 kind.target) sent waiting)
    (operation : String) (limit : Nat) :
    Waited options kind (waitUntil operation limit (isReplyTo kind) p).1
      (waitUntil operation limit (isReplyTo kind) p).2 := by
  have hstart : Standing options (within limit p)
      (history 0 0 kind.target ++ [].filterMap Event.move?) sent waiting := by
    rw [List.filterMap_nil, List.append_nil]
    exact h.congr rfl rfl rfl
  obtain ⟨events, last, turn, result, hturns, hturn, hresult, hwait⟩ :=
    Pump.waitFrom_cases (isReplyTo kind) 0 (within limit p)
  -- The turns before the last leave the handshake standing, and the last one decides.
  obtain ⟨sent', waiting', hlast⟩ := hstart.turns hturns
  have hturned := Pump.turned_turn last
  rw [hturn] at hturned
  have hafter := hlast.turned hlast.calls_front hturned
  unfold waitUntil Pump.waitFor
  rw [hwait]
  cases turn with
  | again => cases hresult
  | failed | pending =>
    cases hresult
    obtain ⟨messages, hended⟩ := hafter
    exact .failed nofun hended
  | event event =>
    obtain ⟨sent'', hstanding⟩ := hafter
    rw [List.nil_append, List.append_assoc, ← filterMap_concat_eq_append] at hstanding
    rw [Pump.Turn.result?] at hresult
    by_cases haccept : isReplyTo kind event = true
    · rw [if_pos haccept] at hresult
      cases hresult
      rcases move?_of_isReplyTo haccept with hmove | hmove
      · exact .granted hmove ((hstanding.granted hmove).congr rfl rfl rfl)
      · have hsent := hstanding.ne_nil
        rw [List.append_nil] at hsent
        exact .denied hmove (hstanding.ended hstanding.calls_front hsent)
    · rw [if_neg haccept] at hresult
      cases hresult

end Standing

/-! ### The steps of a handshake -/

/-- What a step of a handshake comes to that is to lead to the place `s`: it stands there with
nothing waiting, or it has failed for a reason that is no refused command. -/
inductive Led (options : InitializeOptions) (s : Lifecycle) (p : Pump (Recorded σ)) :
    Except HandshakeError Unit → Prop where
  /-- At the end the exit was the last message. -/
  | there {sent : List Message} (hstanding : Standing options p (history 0 0 s) sent [])
      (hlast : s = .exited → sent.getLast? = some exitMessage) :
    Led options s p (.ok ())
  | failed {e : HandshakeError} {messages : List Message}
      (herror : ∀ refusal, e ≠ .command refusal)
      (hended : Ended options p.transport.history messages) :
    Led options s p (.error e)

variable {options : InitializeOptions} {p : Pump (Recorded σ)} {sent : List Message}

omit [Transport σ] in
/-- A new client allows the request to initialize, which is the first message of a handshake and has
the number zero. -/
theorem command_sendInitialize (options : InitializeOptions) (t : σ) (records : List Log.Record) :
    let start : Pump (Recorded σ) := (Pump.new .new ⟨t, []⟩).log records
    ∃ asked, start.command (start.client.sendInitializeRecords options)
        (fun c => c.sendInitialize options) = (asked, .ok (.integer 0)) ∧
      Standing options asked (history 0 0 ClientRequest.initialization.target) []
        [initializeMessage options] := by
  intro start
  have hstart : start.Ledger [] [] := ⟨.nil, .ofConfig .default⟩
  have hcommand : (Client.Operation.sendInitialize options).isCommand = true := rfl
  refine ⟨_, rfl, hstart.commanded hcommand _, ?_, rfl, rfl, Or.inl rfl⟩
  exact HasMade.new.perform (.sendInitialize options)

/-- Asking a server to initialize leads to `normal`, where regular traffic may flow, or fails on the
way. The notification that follows the grant is sent by the client itself. -/
theorem led_initializeServer (options : InitializeOptions) (limit : Nat) (t : σ)
    (records : List Log.Record) :
    let start : Pump (Recorded σ) := (Pump.new .new ⟨t, []⟩).log records
    Led options .normal (initializeServer options limit start).1
      (initializeServer options limit start).2 := by
  intro start
  obtain ⟨asked, hcommand, hasked⟩ := command_sendInitialize options t records
  have hwaited : Waited options .initialization
      (waitUntil "initialize" limit isInitializeReply asked).1
      (waitUntil "initialize" limit isInitializeReply asked).2 := hasked.waited "initialize" limit
  unfold initializeServer
  rw [hcommand]
  simp only
  -- What the wait comes to is all that matters of it from here on.
  generalize waitUntil "initialize" limit isInitializeReply asked = waited at hwaited ⊢
  obtain ⟨q, result⟩ := waited
  cases hwaited with
  | failed herror hended => exact .failed herror hended
  | granted hmove hstanding =>
    rename_i event sent
    cases event with
    | initialized capabilities => exact .there (hstanding.congr rfl rfl rfl) nofun
    | _ => cases hmove
  | denied hmove hended =>
    rename_i event messages
    cases event with
    | initializeFailed failure => exact .failed nofun hended
    | _ => cases hmove

omit [Transport σ] in
/-- Where regular traffic may flow, the client allows the request to shut down. Its number is one,
since only the request to initialize was numbered before. -/
theorem command_sendShutdown (h : Standing options p (history 0 0 .normal) sent []) :
    ∃ asked, p.command p.client.sendShutdownRecords (fun c => c.sendShutdown) =
        (asked, .ok (.integer 1)) ∧
      Standing options asked (history 0 0 ClientRequest.shutdown.target) sent
        [shutdownMessage] := by
  obtain ⟨hnone, hstate, hnextId⟩ := h.at_rest rfl
  have hallowed : (p.client.perform .sendShutdown).2 = .requested (.ok (.integer 1)) := by
    -- One request was sent before, that to initialize.
    rw [Client.perform_sendShutdown hstate, hnextId]
    rfl
  have hmoves : Client.Operation.moves .sendShutdown (p.client.perform .sendShutdown).2 =
      [.sent .shutdown] := by
    rw [hallowed]
    rfl
  have hmessages : Client.Operation.messages p.client.config .sendShutdown
      (p.client.perform .sendShutdown).2 = (messageOf? options (.sent .shutdown)).toList := by
    rw [hallowed]
    rfl
  have hresult : p.client.sendShutdown.2 = .ok (.integer 1) := by
    injection hallowed
  exact ⟨_, Prod.ext rfl hresult, h.commanded hnone rfl hmoves hmessages _⟩

/-- Asking a server to shut down leads to `shutdown`, where only the exit remains, or fails on the
way. -/
theorem led_shutDownServer (h : Standing options p (history 0 0 .normal) sent []) (limit : Nat) :
    Led options .shutdown (shutDownServer limit p).1 (shutDownServer limit p).2 := by
  obtain ⟨asked, hcommand, hasked⟩ := command_sendShutdown h
  have hwaited : Waited options .shutdown
      (waitUntil "shutdown" limit isShutdownReply asked).1
      (waitUntil "shutdown" limit isShutdownReply asked).2 := hasked.waited "shutdown" limit
  unfold shutDownServer
  rw [hcommand]
  simp only
  generalize waitUntil "shutdown" limit isShutdownReply asked = waited at hwaited ⊢
  obtain ⟨q, result⟩ := waited
  cases hwaited with
  | failed herror hended => exact .failed herror hended
  | granted hmove hstanding =>
    rename_i event sent
    cases event with
    | shutdownAcked => exact .there hstanding nofun
    | _ => cases hmove
  | denied hmove hended =>
    rename_i event messages
    cases event with
    | shutdownFailed failure => exact .failed nofun hended
    | _ => cases hmove

omit [Transport σ] in
/-- Where only the exit remains, the client allows it. -/
theorem command_sendExit (h : Standing options p (history 0 0 .shutdown) sent []) :
    ∃ told, p.command p.client.sendExitRecords (fun c => c.sendExit) = (told, .ok ()) ∧
      Standing options told (history 0 0 .exited) sent [exitMessage] := by
  obtain ⟨hnone, hstate, -⟩ := h.at_rest rfl
  have hallowed := Client.perform_sendExit hstate
  have hmoves : Client.Operation.moves .sendExit (p.client.perform .sendExit).2 = [.exit] := by
    rw [hallowed]
    rfl
  have hmessages : Client.Operation.messages p.client.config .sendExit
      (p.client.perform .sendExit).2 = (messageOf? options .exit).toList := by
    rw [hallowed]
    rfl
  have hresult : p.client.sendExit.2 = .ok () := by
    injection hallowed
  exact ⟨_, Prod.ext rfl hresult, h.commanded hnone rfl hmoves hmessages _⟩

/-- Telling a server to exit leads to `exited`, the end of the session, with the exit as the last
message, unless the write fails. -/
theorem led_dismissServer (h : Standing options p (history 0 0 .shutdown) sent []) (limit : Nat) :
    Led options .exited (dismissServer limit p).1 (dismissServer limit p).2 := by
  obtain ⟨told, hcommand, htold⟩ := command_sendExit h
  have hstanding : Standing options (within limit told) (history 0 0 .exited) sent [exitMessage] :=
    htold.congr rfl rfl rfl
  -- Behind the exit nothing moves, so all calls are those of the script.
  have hfront : Message.calls (sent ++ [exitMessage]) <+: script options := by
    rw [hstanding.calls_eq, hstanding.hasMade.follows.of_history.eq_nil_of_exited.1]
    exact List.prefix_rfl
  have hflushed := Pump.flushed_flush (within limit told)
  unfold dismissServer
  rw [hcommand]
  simp only
  generalize (within limit told).flush = flushed at hflushed ⊢
  obtain ⟨q, result⟩ := flushed
  cases result with
  | error e => exact .failed nofun (hstanding.unwritten hfront hflushed)
  | ok done =>
    refine .there ((hstanding.flushed hflushed).congr rfl rfl rfl) fun _ => ?_
    rw [List.getLast?_append]
    rfl

/-! ### The handshake -/

/-- The handshake of `converse` leads to the end of the session, or fails on the way: the places
that its three steps lead to are those that the next ones start from. -/
theorem led_converse (options : InitializeOptions) (limit : Nat) (t : σ)
    (records : List Log.Record) :
    let start : Pump (Recorded σ) := (Pump.new .new ⟨t, []⟩).log records
    Led options .exited (converse options limit start).1 (converse options limit start).2 := by
  intro start
  have hinitialize : Led options .normal (initializeServer options limit start).1
    (initializeServer options limit start).2 := led_initializeServer options limit t records
  unfold converse
  -- Each step is looked at only through what it is known to lead to.
  generalize initializeServer options limit start = initialized at hinitialize ⊢
  obtain ⟨p, result⟩ := initialized
  cases hinitialize with
  | failed herror hended => exact .failed herror hended
  | there hstanding hlast =>
    have hshutdown := led_shutDownServer hstanding limit
    simp only
    generalize shutDownServer limit p = shutDown at hshutdown ⊢
    obtain ⟨q, result⟩ := shutDown
    cases hshutdown with
    | failed herror hended => exact .failed herror hended
    | there hstanding hlast => exact led_dismissServer hstanding limit

/-- A handshake over a transport does the same with a record of what passes (`Recorded`). No command
of it is refused. What went to the server is the frames of messages that begin with the request to
initialize, unless a write failed. The responses among them go to requests that had come from the
server by then, and the others are a front of the `script`. If the handshake succeeds, the others
are the whole script, the exit is the last message, and the session has ended with nothing pending.
-/
theorem script_of_converse (options : InitializeOptions) (limit : Nat) (t : σ)
    (records : List Log.Record) :
    let start : Pump (Recorded σ) := (Pump.new .new ⟨t, []⟩).log records
    let p := (converse options limit start).1
    let result := (converse options limit start).2
    converse options limit ((Pump.new .new t).log records) = (p.plain, result) ∧
      (∀ refusal, result ≠ .error (.command refusal)) ∧
      ∃ messages,
        Carries Frame.defaultLimit p.transport.history messages ∧
        Traffic.sentBytes p.transport.history = Message.frames messages ∧
        ((∀ bytes, .refused bytes ∉ p.transport.history) →
          messages.head? = some (initializeMessage options)) ∧
        Message.calls messages <+: script options ∧
        (result = .ok () →
          Message.calls messages = script options ∧ messages.getLast? = some exitMessage ∧
          p.client.state = .exited ∧ p.client.pendingCount = 0) := by
  intro start p result
  refine ⟨plain_converse options limit start, ?_⟩
  have hled : Led options .exited p result := led_converse options limit t records
  generalize p = q, result = r at hled
  cases hled with
  | failed herror hended =>
    exact ⟨fun refusal h => herror refusal (Except.error.inj h), _, hended.carries,
      hended.carries.sentBytes_eq, hended.head?_eq, hended.calls_front, nofun⟩
  | there hstanding hlast =>
    rename_i messages
    -- Nothing follows the exit, so the events at hand move nothing and call for no message.
    obtain ⟨hnone, hstate⟩ := hstanding.hasMade.follows.of_history.eq_nil_of_exited
    have hcalls : Message.calls messages = script options := by
      have hall := hstanding.calls_eq
      rw [hnone, List.append_nil, List.append_nil] at hall
      exact hall
    have hhead := hstanding.head?_eq
    rw [List.append_nil] at hhead
    have hcarries := hstanding.ledger.carries
    rw [hstanding.hasMade.config_eq] at hcarries
    have hpending : q.client.pending = [] :=
      hstanding.hasMade.consistent.pending_eq_nil (by rw [hstate]; rfl)
    refine ⟨nofun, messages, hcarries, hcarries.sentBytes_eq, fun _ => hhead, ?_, fun _ => ?_⟩
    · exact hcalls ▸ List.prefix_rfl
    · refine ⟨hcalls, hlast rfl, hstate, ?_⟩
      rw [Client.pendingCount, hpending]
      rfl

/-! ### A willing server -/

/-- A document that comes in one piece ends the `waitUntil` for its event. The first turn reads it
and the second hands its event out, so nothing is left at hand. -/
private theorem waitUntil_of_piece (operation : String) (limit : Nat) {p : Pump Stream}
    {accept : Event → Bool} {document : Json} {rest : List Bytes} {c mid : Client}
    {incoming : List Incoming} {event : Event} (hbacklog : p.backlog = [])
    (ht : p.transport.Faultless)
    (hinput : p.transport.input = Frame.encodeAll [document] :: rest)
    (hcore : p.client.core = c.core)
    (hplain : document.isIntegral Json.depthLimit = true ∧ document.isOrdered = true ∧
      (Frame.bodyOf document).length ≤ c.config.maxMessageSize)
    (hfits : (Frame.encodeAll [document]).length ≤ readSize)
    (hreceived : c.received = []) (hvalid : c.validate [document] = .ok incoming)
    (happly : c.discard.applyAll incoming = (mid, [event])) (hstate : mid.state ≠ .exited)
    (hquiet : event.requestId? = none) (haccept : accept event = true) :
    ∃ q, waitUntil operation limit accept p = (q, .ok event) ∧ q.backlog = [] ∧
      q.transport.Faultless ∧ q.transport.input = rest ∧ q.client.core = mid.core := by
  have hbound : (Frame.encodeAll [document]).length ≤ Frame.sizeBound := hfits.trans (by decide)
  have hfeed := Client.feed_encodeAll hreceived
    (fun m hm => List.mem_singleton.mp hm ▸ hplain) hbound hvalid
  rw [happly] at hfeed
  obtain ⟨hresult, hfed⟩ := Client.feed_core hcore (Frame.encodeAll [document])
  rw [hfeed] at hresult hfed
  have hmore : (within limit p).transport.input ≠ [] := by
    show p.transport.input ≠ []
    rw [hinput]
    exact List.cons_ne_nil _ _
  obtain ⟨bytes, more, -, -, hpiece, hturn⟩ :=
    @Pump.turn_of_input (within limit p) hbacklog ht hmore
  obtain ⟨rfl, rfl⟩ := hpiece _ _ hinput hfits
  -- The first turn brings the event to hand, and the second hands it out.
  obtain ⟨q, hagain, harrived⟩ := hturn _ _ (Prod.ext rfl hresult)
  have hcore' : q.client.core = mid.core := harrived.core_eq.trans hfed
  have hq : q.client.state = mid.state := (congrArg Client.state hcore' :)
  obtain ⟨r, hevent, hr, hrelayed, -⟩ := Pump.turn_of_backlog harrived.backlog_eq
    harrived.faultless (hq ▸ hstate) fun id hid => by
      rw [hquiet] at hid
      cases hid
  have hwait : (within limit p).waitFor accept = (r, 0, .ready (.ok event)) := by
    rw [Pump.waitFor, Pump.waitFrom_eq, hagain]
    simp only
    rw [Pump.waitFrom_eq, hevent]
    exact if_pos haccept
  refine ⟨r.log [timingRecord operation], ?_, hr, hrelayed.faultless,
    hrelayed.input_eq.trans harrived.input_eq, hrelayed.core_eq.trans hcore'⟩
  simp only [waitUntil, hwait, bounded, Except.mapError]

/-- What the program says of itself in the handshake with the `willing` server. -/
private def greeting : InitializeOptions := ⟨some 1, some "file:///project", .off⟩

/-- The reply of a server that grants the request to initialize, which is the first and has the
number zero. -/
private def granted : Json :=
  .object [("id", .number (.integer 0)), ("jsonrpc", .string "2.0"),
    ("result", .object [("capabilities", .object [])])]

/-- The reply of a server that grants the request to shut down with `null`, which has the number
one. -/
private def agreed : Json :=
  .object [("id", .number (.integer 1)), ("jsonrpc", .string "2.0"), ("result", .null)]

/-- A server that grants both requests, each reply in a piece of its own. It sends them without
waiting for the requests, as a stream of input may. -/
private def willing : Stream :=
  ⟨[Frame.encodeAll [granted], Frame.encodeAll [agreed]], none, [], none⟩

private theorem plain_willing : ∀ m ∈ [granted, agreed],
    (m.isIntegral Json.depthLimit = true ∧ m.isOrdered = true ∧
      (Frame.bodyOf m).length ≤ Frame.defaultLimit) ∧
      (Frame.encodeAll [m]).length ≤ readSize ∧ Frame.encodeAll [m] ≠ [] := by decide +kernel

private theorem faultless_willing : willing.Faultless := by
  refine ⟨?_, rfl, rfl⟩
  show ∀ chunk ∈ [_, _], chunk ≠ []
  obtain ⟨-, -, hgranted⟩ := plain_willing granted List.mem_cons_self
  obtain ⟨-, -, hagreed⟩ := plain_willing agreed (List.mem_cons_of_mem _ List.mem_cons_self)
  simp [hgranted, hagreed]

/-- The client that has asked to initialize, as `Client.perform` leaves it. -/
private def asking : Client := (Client.new.perform (.sendInitialize greeting)).1

/-- The client that has been initialized, by the reply that `granted` is. -/
private def initialized : Client :=
  (asking.applyAll [.initializeReply (.integer 0) (.ok (.object []))]).1

/-- The client that has asked to shut down, after it was `initialized`. -/
private def leaving : Client := (initialized.perform .sendShutdown).1

private theorem initializeServer_willing (limit : Nat) :
    ∃ p, initializeServer greeting limit (Pump.new .new willing) = (p, .ok ()) ∧
      p.backlog = [] ∧ p.transport.Faultless ∧
      p.transport.input = [Frame.encodeAll [agreed]] ∧ p.client.core = initialized.core := by
  obtain ⟨hplain, hfits, -⟩ := plain_willing granted List.mem_cons_self
  obtain ⟨asked, hcommand, hclient, htransport, hbacklog⟩ :
      ∃ asked, (Pump.new .new willing).command (Client.new.sendInitializeRecords greeting)
          (fun c => c.sendInitialize greeting) = (asked, .ok (.integer 0)) ∧
        asked.client.core = asking.core ∧ asked.transport = willing ∧ asked.backlog = [] :=
    ⟨_, rfl, rfl, rfl, rfl⟩
  have hvalid : asking.validate [granted] =
      .ok [.initializeReply (.integer 0) (.ok (.object []))] := rfl
  have happly : asking.discard.applyAll [.initializeReply (.integer 0) (.ok (.object []))] =
      (initialized, [.initialized (.object [])]) := rfl
  have haccept : isInitializeReply (.initialized (.object [])) = true := rfl
  obtain ⟨p, hwait, hp⟩ := waitUntil_of_piece "initialize" limit hbacklog
    (htransport ▸ faultless_willing) (congrArg Stream.input htransport) hclient hplain hfits rfl
    hvalid happly nofun rfl haccept
  have hstart : (Pump.new Client.new willing).client = Client.new := rfl
  refine ⟨p.log [.plain .info .program
    ("Server initialized with capabilities: " ++ (Json.object []).render)], ?_, hp⟩
  rw [initializeServer, hstart, hcommand]
  simp only [hwait]

private theorem shutDownServer_willing (limit : Nat) {p : Pump Stream} (hbacklog : p.backlog = [])
    (ht : p.transport.Faultless) (hinput : p.transport.input = [Frame.encodeAll [agreed]])
    (hcore : p.client.core = initialized.core) :
    ∃ q, shutDownServer limit p = (q, .ok ()) ∧ q.transport.Faultless ∧
      q.client.state = .shutdown := by
  obtain ⟨hplain, hfits, -⟩ := plain_willing agreed (List.mem_cons_of_mem _ List.mem_cons_self)
  have hstate : p.client.state = .normal := (congrArg Client.state hcore :)
  have hresult : p.client.sendShutdown.2 = .ok (.integer p.client.nextId) := by
    injection Client.perform_sendShutdown hstate
  obtain ⟨asked, hcommand, hclient, htransport, hempty⟩ :
      ∃ asked, p.command p.client.sendShutdownRecords (fun c => c.sendShutdown) =
          (asked, .ok (.integer p.client.nextId)) ∧
        asked.client.core = leaving.core ∧ asked.transport = p.transport ∧ asked.backlog = [] :=
    ⟨_, Prod.ext rfl hresult, (Client.perform_core hcore .sendShutdown rfl).2, rfl, hbacklog⟩
  have hvalid : leaving.validate [agreed] = .ok [.shutdownReply (.integer 1) (.ok ())] := rfl
  have happly : leaving.discard.applyAll [.shutdownReply (.integer 1) (.ok ())] =
      (_, [.shutdownAcked]) := rfl
  have haccept : isShutdownReply .shutdownAcked = true := rfl
  obtain ⟨q, hwait, -, hfaultless, -, hlast⟩ := waitUntil_of_piece "shutdown" limit hempty
    (htransport ▸ ht) (htransport ▸ hinput) hclient hplain hfits rfl hvalid happly nofun rfl haccept
  refine ⟨q, ?_, hfaultless, (congrArg Client.state hlast :)⟩
  rw [shutDownServer, hcommand]
  simp only [hwait]

private theorem converse_willing (limit : Nat) :
    (converse greeting limit (Pump.new .new willing)).2 = .ok () := by
  obtain ⟨p, hinitialize, hbacklog, ht, hinput, hcore⟩ := initializeServer_willing limit
  obtain ⟨q, hshutdown, hfaultless, hstate⟩ :=
    shutDownServer_willing limit hbacklog ht hinput hcore
  have hresult : q.client.sendExit.2 = .ok () := by
    injection Client.perform_sendExit hstate
  obtain ⟨told, hcommand, htold⟩ : ∃ told, q.command q.client.sendExitRecords
      (fun c => c.sendExit) = (told, .ok ()) ∧ told.transport.Faultless :=
    ⟨_, Prod.ext rfl hresult, hfaultless⟩
  have hflushed := (Pump.flushed_flush (within limit told)).relayed htold
  rw [converse, hinitialize]
  simp only [hshutdown, dismissServer, hcommand]
  generalize (within limit told).flush = flushed at hflushed ⊢
  obtain ⟨r, result⟩ := flushed
  cases hflushed.1
  rfl

/-- A server that grants both requests brings the handshake to its end, with the whole `script` sent
and the exit as the last message. -/
theorem script_of_willing :
    ∃ p : Pump (Recorded Stream),
      converse greeting 0 ((Pump.new .new willing).log []) = (p.plain, .ok ()) ∧
      p.client.state = .exited ∧ p.client.pendingCount = 0 ∧
      ∃ messages, Traffic.sentBytes p.transport.history = Message.frames messages ∧
        Message.calls messages = script greeting ∧ messages.getLast? = some exitMessage := by
  obtain ⟨hplain, -, messages, -, hbytes, -, -, hdone⟩ := script_of_converse greeting 0 willing []
  have hok := converse_willing 0
  have hstart : (Pump.new Client.new willing).log [] = Pump.new .new willing := rfl
  rw [hstart] at hplain ⊢
  rw [hplain] at hok
  obtain ⟨hcalls, hlast, hstate, hpending⟩ := hdone hok
  refine ⟨_, ?_, hstate, hpending, messages, hbytes, hcalls, hlast⟩
  rw [hplain]
  exact Prod.ext rfl hok

end Handshake

end LspSession
