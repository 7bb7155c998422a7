import LspSession.Proofs.Client.Accept
import LspSession.Proofs.Client.Chunks
import LspSession.Proofs.Client.Course
import LspSession.Proofs.Client.InTurn

/-!
# `LspSession.Proofs.Client.Core`: what decides how bytes are taken in

A client that takes bytes in looks neither at the bytes that it has for the server nor at the ids
that await a reply. It only adds to them. So two clients that differ in nothing else (`core`) give
the same events, and differ in nothing else afterwards (`feed_core`). Whoever drains a client or
replies in its name between two pieces of a stream makes no difference to what the stream means.
-/

set_option autoImplicit false

namespace LspSession.Client

/-- The client with no bytes for the server and no ids that await a reply. Two clients with the same
`core` differ in these two fields at most. -/
def core (c : Client) : Client := { c with outgoing := [], awaitingReply := .empty }

/-! ### Documents -/

/-- A document that is carried out by `apply` leads clients of one core to one core. It may queue
bytes or add an id, and neither is part of the core. -/
theorem core_apply {c d : Client} (h : c.core = d.core) (incoming : Incoming) :
    (c.apply incoming).1.core = (d.apply incoming).1.core := by
  -- It is enough to compare a client with its own core.
  have hcore (c : Client) : (c.core.apply incoming).1.core = (c.apply incoming).1.core := by
    cases incoming with
    | call event => rw [apply_call, apply_call]; rfl
    | initializeReply id outcome | shutdownReply id outcome => cases outcome <;> rfl
  rw [← hcore c, ← hcore d, h]

/-- A batch that is carried out by `applyAll` leads clients of one core to one core, document by
document. -/
theorem core_applyAll {c d : Client} (h : c.core = d.core) (incoming : List Incoming) :
    (c.applyAll incoming).1.core = (d.applyAll incoming).1.core := by
  induction incoming generalizing c d with
  | nil => exact h
  | cons first rest ih =>
    rw [applyAll_cons, applyAll_cons]
    exact ih (core_apply h first)

/-- Documents mean the same to clients of one core, because `validate` looks at `pending` alone. -/
theorem validate_congr {c d : Client} (h : c.core = d.core) (documents : List Json) :
    c.validate documents = d.validate documents := by
  have hpending : c.pending = d.pending := (congrArg pending h :)
  have hfrom : ∀ answered : List RequestId,
      c.validateFrom answered documents = d.validateFrom answered documents := by
    induction documents with
    | nil => intro answered; rfl
    | cons document rest ih =>
      intro answered
      have hkind (id : RequestId) : c.answeredKind? answered id = d.answeredKind? answered id := by
        rw [answeredKind?, answeredKind?, hpending]
      simp only [validateFrom, validateOne_congr hkind document, ih]
  exact hfrom []

/-! ### Bytes and commands -/

/-- Bytes give clients of one `core` the same events or the same error, and lead them to one core.
-/
theorem feed_core {c d : Client} (h : c.core = d.core) (bytes : Bytes) :
    (c.feed bytes).2 = (d.feed bytes).2 ∧ (c.feed bytes).1.core = (d.feed bytes).1.core := by
  have hconfig : c.config = d.config := (congrArg config h :)
  have hreceived : c.received = d.received := (congrArg received h :)
  have hdiscard : c.discard.core = d.discard.core := congrArg discard h
  cases hdecode : Frame.decode c.config.maxMessageSize (c.received ++ bytes) with
  | error e =>
    have hdecode' := hdecode
    rw [hconfig, hreceived] at hdecode'
    rw [feed_of_error hdecode, feed_of_error hdecode']
    -- Both clients wait, or both are at fault.
    split
    · exact ⟨rfl, congrArg (receive · bytes) h⟩
    · exact ⟨rfl, hdiscard⟩
  | ok decoded =>
    have hdecode' := hdecode
    rw [hconfig, hreceived] at hdecode'
    rw [feed_of_decode hdecode, feed_of_decode hdecode', handleAll_eq, handleAll_eq,
      validate_congr hdiscard]
    cases d.discard.validate decoded.documents with
    | error e => exact ⟨rfl, hdiscard⟩
    | ok incoming =>
      refine ⟨?_, core_applyAll hdiscard incoming⟩
      show Except.ok (c.discard.applyAll incoming).2 = .ok (d.discard.applyAll incoming).2
      rw [events_applyAll c.discard d.discard, events_applyAll d.discard d.discard]

/-- A lifecycle command gives clients of one core the same `Outcome`, and leads them to one core. A
reply need not, since it depends on the ids that await one. -/
theorem perform_core {c d : Client} (h : c.core = d.core) (op : Operation)
    {move : Lifecycle.Move} (hop : op.move? = some move) :
    (c.perform op).2 = (d.perform op).2 ∧ (c.perform op).1.core = (d.perform op).1.core := by
  have hcore (c : Client) : (c.core.perform op).2 = (c.perform op).2 ∧
      (c.core.perform op).1.core = (c.perform op).1.core := by
    -- A command looks at the place of the session, which is part of the core.
    have hstate : c.core.state = c.state := rfl
    cases op with
    | sendInitialize options =>
      simp only [perform, sendInitialize, hstate]
      cases c.state.require "initialize" .uninitialized <;> exact ⟨rfl, rfl⟩
    | sendShutdown =>
      simp only [perform, sendShutdown, hstate]
      cases c.state.require "shutdown" .normal <;> exact ⟨rfl, rfl⟩
    | sendExit =>
      simp only [perform, sendExit, hstate]
      cases c.state.require "exit" .shutdown <;> exact ⟨rfl, rfl⟩
    | _ => cases hop
  rw [← (hcore c).1, ← (hcore c).2, ← (hcore d).1, ← (hcore d).2, h]
  exact ⟨rfl, rfl⟩

/-- Whether a client is `Settled` depends on its core alone. -/
theorem Settled.congr {c d : Client} (hc : c.Settled) (h : c.core = d.core) : d.Settled := by
  have hconfig : c.config = d.config := (congrArg config h :)
  have hreceived : c.received = d.received := (congrArg received h :)
  unfold Settled at hc ⊢
  rw [← hconfig, ← hreceived]
  exact hc

/-- Bytes that one client takes in to the last one, each client of the same core takes in, with the
same events. -/
theorem Absorbs.congr {c d last : Client} {bytes : Bytes} {events : List Event}
    (hc : c.Absorbs bytes last events) (h : c.core = d.core) :
    ∃ last', d.Absorbs bytes last' events ∧ last'.core = last.core := by
  obtain ⟨hfeed, hempty⟩ := hc
  obtain ⟨hevents, hlast⟩ := feed_core h bytes
  rw [hfeed] at hevents hlast
  refine ⟨(d.feed bytes).1, ⟨Prod.ext rfl hevents.symm, ?_⟩, hlast.symm⟩
  have hreceived : last.received = (d.feed bytes).1.received := (congrArg received hlast :)
  rw [← hreceived, hempty]

end LspSession.Client
