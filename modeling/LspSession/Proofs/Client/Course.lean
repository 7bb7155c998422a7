import LspSession.Proofs.Client.Outgoing
import LspSession.Proofs.Lifecycle

/-!
# `LspSession.Proofs.Client.Course`: the course that a client takes

The state of a client is written by its commands, and by the replies that it finds anywhere in a
batch. `Trace.moves` reads off a trace the moves that the session made, from the answers of the
calls alone. `course_of_run` says that they are always the beginning of a course, that they
determine the state and with it the commands that are allowed, that the capabilities are those of
the one success of an initialization, and that nothing follows the exit.

What carries it is `Consistent`. A client awaits a response to one request while it stands behind
the sending of one, and to none elsewhere. So a reply that is handled is the reply to the request
that the state is about, and no move is out of order.
-/

set_option autoImplicit false

namespace LspSession

namespace Event

/-- The `Lifecycle.Move` that a session makes when it gives an event. Each of the four events of
replies makes one, and calls of the server make none. -/
def move? : Event → Option Lifecycle.Move
  | .initialized _ => some (.granted .initialization)
  | .initializeFailed _ => some (.denied .initialization)
  | .shutdownAcked => some (.granted .shutdown)
  | .shutdownFailed _ => some (.denied .shutdown)
  | _ => none

/-- The capabilities that an event carries. Only `initialized` carries any. -/
def announced? : Event → Option Json
  | .initialized capabilities => some capabilities
  | _ => none

/-- A call of the server (`Event.isCall`) moves nothing and announces nothing. So the place of a
session changes by replies and by its own commands. -/
theorem move?_of_isCall {event : Event} (h : event.isCall = true) :
    event.move? = none ∧ event.announced? = none := by
  cases event with
  | initialized | initializeFailed | shutdownAcked | shutdownFailed => cases h
  | _ => exact ⟨rfl, rfl⟩

/-- An event that moves nothing is followed by no message, because the only message that follows an
event follows a move. -/
theorem message?_of_move? {event : Event} (h : event.move? = none) : event.message? = none := by
  cases event with
  | initialized capabilities => cases h
  | _ => rfl

end Event

namespace Lifecycle

/-- The request that a session awaits a response to. At four of the six places of `Lifecycle` it
awaits none. -/
def awaited? : Lifecycle → Option ClientRequest
  | .awaitingInitializeAck => some .initialization
  | .awaitingShutdownAck => some .shutdown
  | _ => none

/-- Whether the server has been initialized. It stays so until the end, also while the session shuts
down. -/
def isInitialized : Lifecycle → Bool
  | .uninitialized | .awaitingInitializeAck => false
  | _ => true

/-- A session awaits a response exactly where the sending of its request led, which is
`ClientRequest.target`. -/
theorem awaited?_eq_some_iff {s : Lifecycle} {kind : ClientRequest} :
    s.awaited? = some kind ↔ s = kind.target := by
  cases s <;> cases kind <;> simp [awaited?, ClientRequest.target]

end Lifecycle

namespace Client

/-! ### What a trace says -/

/-- The `Lifecycle.Move` that a lifecycle command makes if it is allowed. The other calls make none
by themselves. -/
def Operation.move? : Operation → Option Lifecycle.Move
  | .sendInitialize _ => some (.sent .initialization)
  | .sendShutdown => some (.sent .shutdown)
  | .sendExit => some .exit
  | _ => none

/-- The call is a lifecycle command or a reply: one that the session can refuse. -/
def Operation.isCommand : Operation → Bool
  | .feed _ | .drain => false
  | _ => true

/-- The events that a call gives back. An error gives none, and only `feed` gives any. -/
def Outcome.events : Outcome → List Event
  | .fed (.ok events) => events
  | _ => []

/-- The moves that a call makes, by what it gave back: those of its events, or its own
`Operation.move?` if it is a lifecycle command that was allowed. -/
def Operation.moves (op : Operation) (outcome : Outcome) : List Lifecycle.Move :=
  outcome.events.filterMap Event.move? ++
    if outcome.refusal? = none then op.move?.toList else []

/-- The events that the calls of a trace give back, in the order of the calls. -/
def Trace.events (trace : Trace) : List Event := trace.flatMap fun step => step.2.events

/-- The moves that the calls of a trace make, in the order of the calls. This is what
`course_of_run` is about. -/
def Trace.moves (trace : Trace) : List Lifecycle.Move :=
  trace.flatMap fun step => step.1.moves step.2

/-- A request that is sent moves the session by `Move.sent`, and by nothing else. -/
theorem Operation.moves_of_request? {op : Operation} {config : Config} {kind : ClientRequest}
    {params : Option Json} {id : RequestId} (h : op.request? config = some (kind, params)) :
    op.moves (.requested (.ok id)) = [.sent kind] := by
  cases op with
  | sendInitialize | sendShutdown =>
    cases h
    rfl
  | _ => cases h

/-- A call with an `Outcome.refusal?` moves nothing. It gives no events, and its own move is not
made. -/
theorem Operation.moves_of_refusal (op : Operation) {outcome : Outcome} {e : StateError}
    (h : outcome.refusal? = some e) : op.moves outcome = [] := by
  cases outcome with
  | fed result | drained bytes => cases h
  | requested result | done result =>
    rw [Operation.moves, h]
    rfl

/-! ### The invariant -/

/-- What a client awaits and knows fits the place where it stands. This is the invariant that
carries the course of a session: it says of a reply that is found pending which request it is a
reply to. -/
structure Consistent (c : Client) : Prop where
  /-- It awaits a response to the request that its state is about, and to no other. -/
  kinds_pending : c.pending.map (fun entry => entry.2.kind) = c.state.awaited?.toList
  /-- It knows capabilities once the server has been initialized. -/
  isSome_capabilities : c.capabilities.isSome = c.state.isInitialized

namespace Consistent

/-- A client that awaits no response has an empty `pending` table, so no response can be found to
answer anything. -/
theorem pending_eq_nil {c : Client} (hc : c.Consistent) (h : c.state.awaited? = none) :
    c.pending = [] := by
  have hkinds := hc.kinds_pending
  rw [h] at hkinds
  exact List.map_eq_nil_iff.mp hkinds

/-- A request that `PendingTable.find?` finds is the one that the state is about, and the only one:
once it is answered, the table is empty. -/
theorem of_find? {c : Client} (hc : c.Consistent) {id : RequestId} {kind : ClientRequest}
    {request : Request} (h : c.pending.find? id = some ⟨kind, request⟩) :
    c.state = kind.target ∧ c.pending.erase id = [] := by
  have hkinds := hc.kinds_pending
  cases hpending : c.pending with
  | nil =>
    rw [hpending] at h
    cases h
  | cons entry rest =>
    obtain ⟨key, pending⟩ := entry
    rw [hpending, List.map_cons] at hkinds
    -- There is one entry at most, so the one found is the whole table.
    cases hawaited : c.state.awaited? with
    | none =>
      rw [hawaited] at hkinds
      cases hkinds
    | some kind' =>
      rw [hawaited] at hkinds
      obtain ⟨hkind, hrest⟩ := List.cons.inj hkinds
      rw [List.map_eq_nil_iff] at hrest
      subst hrest
      have hlookup := h
      rw [hpending, PendingTable.find?, List.lookup_cons] at hlookup
      -- The lookup can only have found it under its own id.
      by_cases hkey : id = key
      · rw [hkey, beq_self_eq_true] at hlookup
        cases hlookup
        rw [← hkind] at hawaited
        refine ⟨Lifecycle.awaited?_eq_some_iff.mp hawaited, ?_⟩
        rw [PendingTable.erase, List.filter_cons_of_neg (by simp [hkey])]
        rfl
      · rw [beq_false_of_ne hkey] at hlookup
        cases hlookup

/-- A client stays consistent when the response that it awaits leads it on to `t`, a place where it
awaits nothing and knows as much as before. -/
theorem replied {c : Client} (hc : c.Consistent) {id : RequestId} {kind : ClientRequest}
    {request : Request} (h : c.pending.find? id = some ⟨kind, request⟩) {t : Lifecycle}
    (hawaited : t.awaited? = none) (hinitialized : t.isInitialized = kind.target.isInitialized) :
    Consistent { c with pending := c.pending.erase id, state := t } := by
  obtain ⟨hstate, herase⟩ := hc.of_find? h
  refine ⟨?_, ?_⟩
  · show (c.pending.erase id).map _ = t.awaited?.toList
    rw [herase, hawaited]
    rfl
  · show c.capabilities.isSome = t.isInitialized
    rw [hc.isSome_capabilities, hstate, hinitialized]

/-- A client stays `Consistent` when it sends a request. None is awaited where one may be sent, so
the table then holds this request alone. -/
theorem requested {c : Client} (hc : c.Consistent) {kind : ClientRequest}
    (params : Option Json) (hstate : c.state = kind.source) :
    Consistent { (c.sendRequest kind params).1 with state := kind.target } := by
  have hempty : c.pending = [] := hc.pending_eq_nil (by rw [hstate]; cases kind <;> rfl)
  refine ⟨?_, ?_⟩
  · show (c.pending.insert _ _).map _ = kind.target.awaited?.toList
    rw [hempty, Lifecycle.awaited?_eq_some_iff.mpr rfl]
    rfl
  · show c.capabilities.isSome = kind.target.isInitialized
    rw [hc.isSome_capabilities, hstate]
    cases kind <;> rfl

/-- A client stays `Consistent` when it exits. It awaited nothing before, and stays initialized. -/
theorem exited {c : Client} (hc : c.Consistent) (hstate : c.state = .shutdown) :
    Consistent { c.send exitNotification.wire with state := .exited } := by
  have hcapabilities := hc.isSome_capabilities
  rw [hstate] at hcapabilities
  refine ⟨?_, hcapabilities⟩
  show c.pending.map _ = []
  rw [hc.pending_eq_nil (by rw [hstate]; rfl)]
  rfl

end Consistent

/-- The client of `Client.ofConfig` is `Consistent`: it awaits nothing, and knows nothing of the
server. -/
theorem consistent_ofConfig (config : Config) : (ofConfig config).Consistent := ⟨rfl, rfl⟩

/-- A document makes the move of its event, from where the client stands, and the client stays
consistent. That the move starts there is what `Consistent.of_find?` is for. -/
theorem Handled.follows {c next : Client} {event : Event} (h : Handled c next event)
    (hc : c.Consistent) :
    next.Consistent ∧ Lifecycle.Follows c.state event.move?.toList next.state := by
  cases h with
  | call hcall =>
    rw [(Event.move?_of_isCall hcall).1]
    exact ⟨⟨hc.kinds_pending, hc.isSome_capabilities⟩, .nil _⟩
  -- Each reply is the reply to the request that the state is about, so its move starts there.
  | initialized capabilities hpending =>
    obtain ⟨hstate, herase⟩ := hc.of_find? hpending
    refine ⟨⟨by rw [herase]; rfl, rfl⟩, ?_⟩
    rw [hstate]
    exact .single (.granted .initialization)
  | initializeFailed failure hpending =>
    refine ⟨hc.replied hpending rfl rfl, ?_⟩
    rw [(hc.of_find? hpending).1]
    exact .single (.denied .initialization)
  | shutdownAcked hpending =>
    refine ⟨hc.replied hpending rfl rfl, ?_⟩
    rw [(hc.of_find? hpending).1]
    exact .single (.granted .shutdown)
  | shutdownFailed failure hpending =>
    refine ⟨hc.replied hpending rfl rfl, ?_⟩
    rw [(hc.of_find? hpending).1]
    exact .single (.denied .shutdown)

/-- A batch that is `HandledAll` makes the moves of its events one after another, and the client
stays consistent. Several replies in a batch follow on one another just as replies in different
batches do. -/
theorem HandledAll.follows {c last : Client} {events : List Event} (h : HandledAll c last events)
    (hc : c.Consistent) :
    last.Consistent ∧ Lifecycle.Follows c.state (events.filterMap Event.move?) last.state := by
  induction h with
  | nil c => exact ⟨hc, .nil _⟩
  | cons head tail ih =>
    obtain ⟨hnext, hmove⟩ := head.follows hc
    obtain ⟨hlast, hmoves⟩ := ih hnext
    refine ⟨hlast, ?_⟩
    rw [filterMap_cons_eq_append]
    exact hmove.append hmoves

/-- A call makes its `Operation.moves` from where the client stands, and leaves a consistent client.
-/
theorem Performed.follows {c next : Client} {op : Operation} {outcome : Outcome}
    (h : Performed c op next outcome) (hc : c.Consistent) :
    next.Consistent ∧ Lifecycle.Follows c.state (op.moves outcome) next.state := by
  have hstays : Lifecycle.Follows c.state [] c.state := .nil _
  cases h with
  | fed h =>
    cases h with
    | waiting | misframed | rejected =>
      exact ⟨⟨hc.kinds_pending, hc.isSome_capabilities⟩, hstays⟩
    -- Throwing away bytes changes neither of the two things that consistency is about.
    | accepted hdecode hbatch =>
      have hdiscard : c.discard.Consistent := ⟨hc.kinds_pending, hc.isSome_capabilities⟩
      obtain ⟨hlast, hmoves⟩ := (handledAll_of_handleAll hbatch).follows hdiscard
      refine ⟨hlast, ?_⟩
      show Lifecycle.Follows c.state (_ ++ []) _
      rw [List.append_nil]
      exact hmoves
  | drained => exact ⟨⟨hc.kinds_pending, hc.isSome_capabilities⟩, hstays⟩
  | requested hop hstate =>
    refine ⟨hc.requested _ hstate, ?_⟩
    rw [Operation.moves_of_request? hop, hstate]
    exact .single (.sent _)
  | exited hstate =>
    refine ⟨hc.exited hstate, ?_⟩
    rw [hstate]
    exact .single .exit
  | replied hop hstate hawaiting =>
    refine ⟨⟨hc.kinds_pending, hc.isSome_capabilities⟩, ?_⟩
    cases op with
    | replyToShowMessageRequest | replyWithError | replyMethodNotFound => exact hstays
    | _ => cases hop
  | refused hrefusal =>
    rw [Operation.moves_of_refusal op hrefusal]
    exact ⟨hc, hstays⟩

/-- A run makes the moves of its calls one after another, and leaves a consistent client. The
induction is on the calls, with `Performed.follows` for each. -/
theorem run_follows {c : Client} (hc : c.Consistent) (ops : List Operation) :
    (c.run ops).1.Consistent ∧
      Lifecycle.Follows c.state (c.run ops).2.moves (c.run ops).1.state := by
  induction ops generalizing c with
  | nil => exact ⟨hc, .nil _⟩
  | cons op rest ih =>
    obtain ⟨hnext, hmoves⟩ := (performed_perform c op).follows hc
    obtain ⟨hlast, hrest⟩ := ih hnext
    rw [run_cons]
    exact ⟨hlast, hmoves.append hrest⟩

/-- A lifecycle command is allowed (`Outcome.refusal?` is `none`) exactly where its move starts
from. Nothing but the place of the session decides on it, and this holds of every client. -/
theorem refusal?_perform_eq_none_iff (c : Client) {op : Operation} {move : Lifecycle.Move}
    (hop : op.move? = some move) : (c.perform op).2.refusal? = none ↔ c.state = move.source := by
  -- The three commands differ in the place that they need.
  cases op with
  | sendInitialize options =>
    cases hop
    rcases require_cases c.state .uninitialized "initialize" with
      ⟨hstate, hok⟩ | ⟨hstate, e, herror⟩
    · simp only [perform, sendInitialize, hok]
      exact iff_of_true rfl hstate
    · simp only [perform, sendInitialize, herror]
      exact iff_of_false (Option.some_ne_none e) hstate
  | sendShutdown =>
    cases hop
    rcases require_cases c.state .normal "shutdown" with ⟨hstate, hok⟩ | ⟨hstate, e, herror⟩
    · simp only [perform, sendShutdown, hok]
      exact iff_of_true rfl hstate
    · simp only [perform, sendShutdown, herror]
      exact iff_of_false (Option.some_ne_none e) hstate
  | sendExit =>
    cases hop
    rcases require_cases c.state .shutdown "exit" with ⟨hstate, hok⟩ | ⟨hstate, e, herror⟩
    · simp only [perform, sendExit, hok]
      exact iff_of_true rfl hstate
    · simp only [perform, sendExit, herror]
      exact iff_of_false (Option.some_ne_none e) hstate
  | _ => cases hop

/-! ### Capabilities -/

/-- A document announces what its event carries, and `capabilities` was `none` before: a reply that
initializes is found only where the client knows no capabilities. -/
theorem Handled.announced {c next : Client} {event : Event} (h : Handled c next event)
    (hc : c.Consistent) :
    c.capabilities.toList ++ event.announced?.toList = next.capabilities.toList := by
  cases h with
  | call hcall =>
    rw [(Event.move?_of_isCall hcall).2]
    exact List.append_nil _
  | initialized capabilities hpending =>
    have hnone := hc.isSome_capabilities
    rw [(hc.of_find? hpending).1] at hnone
    rw [Option.isSome_eq_false_iff.mp hnone |> Option.isNone_iff_eq_none.mp]
    rfl
  | initializeFailed | shutdownAcked | shutdownFailed => exact List.append_nil _

/-- A batch announces what its events carry, at most once, behind what was known before. -/
theorem HandledAll.announced {c last : Client} {events : List Event}
    (h : HandledAll c last events) (hc : c.Consistent) :
    c.capabilities.toList ++ events.filterMap Event.announced? = last.capabilities.toList := by
  induction h with
  | nil c => exact List.append_nil _
  | cons head tail ih =>
    rw [← ih (head.follows hc).1, ← head.announced hc, filterMap_cons_eq_append,
      List.append_assoc]

/-- A call announces what its events carry. A call that gives no events leaves the capabilities as
they are. -/
theorem Performed.announced {c next : Client} {op : Operation} {outcome : Outcome}
    (h : Performed c op next outcome) (hc : c.Consistent) :
    c.capabilities.toList ++ outcome.events.filterMap Event.announced? =
      next.capabilities.toList := by
  have hnone : c.capabilities.toList ++ [].filterMap Event.announced? = c.capabilities.toList :=
    List.append_nil _
  cases h with
  | fed h =>
    cases h with
    | waiting | misframed | rejected => exact hnone
    | accepted hdecode hbatch =>
      have hdiscard : c.discard.Consistent := ⟨hc.kinds_pending, hc.isSome_capabilities⟩
      exact (handledAll_of_handleAll hbatch).announced hdiscard
  | drained | requested | exited | replied => exact hnone
  | refused hrefusal =>
    cases outcome with
    | fed result | drained bytes => cases hrefusal
    | requested result | done result => exact hnone

/-- A `run` announces what its events carry, behind what was known before. Both sides are lists with
at most one element, so this says that an initialization succeeds at most once. -/
theorem run_announced {c : Client} (hc : c.Consistent) (ops : List Operation) :
    c.capabilities.toList ++ (c.run ops).2.events.filterMap Event.announced? =
      (c.run ops).1.capabilities.toList := by
  induction ops generalizing c with
  | nil => exact List.append_nil _
  | cons op rest ih =>
    have hperformed := performed_perform c op
    rw [run_cons, ← ih (hperformed.follows hc).1, ← hperformed.announced hc, Trace.events,
      List.flatMap_cons, List.filterMap_append, List.append_assoc]
    rfl

/-- Capabilities that are known stay what they are, whatever is called later: by `run_announced`
nothing can be put in front of them. -/
theorem capabilities_run {c : Client} (hc : c.Consistent) {capabilities : Json}
    (h : c.capabilities = some capabilities) (ops : List Operation) :
    (c.run ops).1.capabilities = some capabilities := by
  have hannounced := run_announced hc ops
  rw [h] at hannounced
  cases hlast : (c.run ops).1.capabilities with
  | none =>
    rw [hlast] at hannounced
    cases hannounced
  | some other =>
    rw [hlast] at hannounced
    exact congrArg some (List.cons.inj hannounced).1.symm

/-! ### The end of a session -/

/-- In the state `exited` a command is refused, and no call queues a byte. A call that feeds bytes
can still give events of calls of the server, and these are followed by no message. -/
theorem Performed.of_exited {c next : Client} {op : Operation} {outcome : Outcome}
    (h : Performed c op next outcome) (hc : c.Consistent) (hstate : c.state = .exited) :
    (op.isCommand = true → outcome.refusal?.isSome = true) ∧
      outcome.taken ++ next.outgoing = c.outgoing := by
  -- No move leaves the end, so no event gives one, and only such an event would queue a message.
  have hmoves := (h.follows hc).2
  rw [hstate] at hmoves
  obtain ⟨hnone, -⟩ := hmoves.eq_nil_of_exited
  cases h with
  | fed h =>
    refine ⟨nofun, ?_⟩
    cases h with
    | waiting | misframed | rejected => rfl
    | accepted hdecode hbatch =>
      rename_i events
      have hevents : events.filterMap Event.move? = [] := (List.append_eq_nil_iff.mp hnone).1
      have hmessages : events.filterMap Event.message? = [] := by
        rw [List.filterMap_eq_nil_iff] at hevents ⊢
        exact fun event hevent => Event.message?_of_move? (hevents event hevent)
      show _ = c.discard.outgoing
      rw [(handledAll_of_handleAll hbatch).outgoing_eq, hmessages]
      exact List.append_nil _
  | drained => exact ⟨nofun, List.append_nil _⟩
  | requested hop hsource =>
    rename_i kind params
    rw [hstate] at hsource
    cases kind <;> cases hsource
  | exited hsource =>
    rw [hstate] at hsource
    cases hsource
  | replied hop hsource hawaiting => exact absurd hstate hsource
  | refused hrefusal =>
    refine ⟨fun _ => by rw [hrefusal]; rfl, ?_⟩
    rw [(Outcome.silent_of_refusal hrefusal c.config op).1]
    rfl

/-- After the exit the session stays where it is, every command is refused, and no byte is queued
again. Bytes can still be fed and drained. -/
theorem run_of_exited {c : Client} (hc : c.Consistent) (hstate : c.state = .exited)
    (ops : List Operation) :
    (c.run ops).1.state = .exited ∧
      (∀ step ∈ (c.run ops).2, step.1.isCommand = true → step.2.refusal?.isSome = true) ∧
      (c.run ops).2.taken ++ (c.run ops).1.outgoing = c.outgoing := by
  induction ops generalizing c with
  | nil => exact ⟨hstate, fun step hstep => absurd hstep List.not_mem_nil, rfl⟩
  | cons op rest ih =>
    have hperformed := performed_perform c op
    obtain ⟨hnext, hmoves⟩ := hperformed.follows hc
    rw [hstate] at hmoves
    obtain ⟨hlast, hrefused, hbytes⟩ := ih hnext hmoves.eq_nil_of_exited.2
    obtain ⟨hcommand, htaken⟩ := hperformed.of_exited hc hstate
    rw [run_cons]
    refine ⟨hlast, ?_, ?_⟩
    · intro step hstep
      rcases List.mem_cons.mp hstep with rfl | hrest
      · exact hcommand
      · exact hrefused step hrest
    · rw [Trace.taken, List.flatMap_cons, List.append_assoc]
      exact (congrArg _ hbytes).trans htaken

/-- The moves of a run from a new client are the beginning of a course (`Lifecycle.IsCourseSoFar`).
They say where the session stands, and a lifecycle command is allowed exactly if its move keeps them
such a beginning. The capabilities are those of the one success of an initialization, if there was
one, and stay so. After the exit the session stays where it is, every command is refused, and no
byte is queued again. -/
theorem course_of_run (config : Config) (ops : List Operation) :
    let c := ((ofConfig config).run ops).1
    let trace := ((ofConfig config).run ops).2
    Lifecycle.IsCourseSoFar trace.moves ∧
      c.state = Lifecycle.after trace.moves ∧
      (∀ op move, op.move? = some move →
        ((c.perform op).2.refusal? = none ↔ Lifecycle.IsCourseSoFar (trace.moves ++ [move]))) ∧
      trace.events.filterMap Event.announced? = c.capabilities.toList ∧
      (∀ capabilities, c.capabilities = some capabilities → ∀ more,
        (c.run more).1.capabilities = some capabilities) ∧
      (.exit ∈ trace.moves → ∀ more,
        (c.run more).1.state = .exited ∧
          (∀ step ∈ (c.run more).2, step.1.isCommand = true → step.2.refusal?.isSome = true) ∧
          (c.run more).2.taken ++ (c.run more).1.outgoing = c.outgoing) := by
  intro c trace
  obtain ⟨hc, hmoves⟩ := run_follows (consistent_ofConfig config) ops
  refine ⟨Lifecycle.isCourseSoFar_iff.mpr ⟨_, hmoves⟩, hmoves.eq_getLast?, ?_, ?_, ?_, ?_⟩
  · intro op move hop
    rw [refusal?_perform_eq_none_iff c hop, Lifecycle.isCourseSoFar_append_iff hmoves]
  · exact run_announced (consistent_ofConfig config) ops
  · exact fun capabilities hcapabilities more => capabilities_run hc hcapabilities more
  · intro hexit more
    exact run_of_exited hc (hmoves.eq_exited_of_mem hexit) more

end Client

end LspSession
