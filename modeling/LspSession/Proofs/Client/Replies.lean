import Mathlib.Data.List.Induction
import LspSession.Proofs.Client.Course

/-!
# `LspSession.Proofs.Client.Replies`: which requests of the server await a reply

The server chooses the ids of its requests. It may use one again, use one that the client uses for
a request of its own, or use a number and its digits side by side. A client keeps the ids that
await a reply in one set. Batches add to it, and each of the three replies takes one id out.

`Trace.AwaitsReply` says what ought to be in the set, by a trace alone: the ids whose event some
call has given back, with no reply since the last such call. `replies_of_run` says that this is what
is in it after every run, that the set decides with the state whether a reply is sent, and that a
reply changes nothing but the set and the bytes for the server. So a client sends no more responses
for an id than events with that id came before.

What one call does to the set is `Performed.isAwaitingReply_iff`, and both the run lemma
(`run_isAwaitingReply_iff`) and the count (`run_count_responses`) rest on it.
-/

set_option autoImplicit false

namespace LspSession

/-- The id of the request that a message responds to. A request or a notification responds to none
and gives `none`. -/
def Message.responseId? : Message → Option RequestId
  | .response r => some r.id
  | _ => none

/-- The message is a response. -/
def Message.isResponse (message : Message) : Bool := message.responseId?.isSome

/-- The message that goes with an event (`Event.message?`) is no response: the client answers
requests of the server only when it is told to. -/
theorem Event.responseId?_message? {event : Event} {message : Message}
    (h : event.message? = some message) : message.responseId? = none := by
  cases event with
  | initialized capabilities =>
    cases h
    rfl
  | _ => cases h

/-- Among messages that go with events there is no response. -/
theorem Event.isResponse_of_mem_messages {events : List Event} {message : Message}
    (h : message ∈ events.filterMap Event.message?) : message.isResponse = false := by
  obtain ⟨event, -, hevent⟩ := List.mem_filterMap.mp h
  rw [Message.isResponse, Event.responseId?_message? hevent]
  rfl

namespace Client

/-! ### What a trace says -/

/-- The ids of the requests of the server whose events a call gives back, by `Event.requestId?`, in
their order and with repetitions. -/
def Outcome.requestIds (outcome : Outcome) : List RequestId :=
  outcome.events.filterMap Event.requestId?

/-- The id of the request that a call replied to. A reply that was refused (`.error`) replied to
nothing. -/
def Operation.repliedId? (op : Operation) (outcome : Outcome) : Option RequestId :=
  if outcome.refusal? = none then op.response?.map (·.id) else none

/-- By what a trace says, the server awaits a reply to an id: some call gave back an event with it,
and since the last such call no call replied to it. -/
def Trace.AwaitsReply (trace : Trace) (id : RequestId) : Prop :=
  ∃ before step after, trace = before ++ step :: after ∧ id ∈ step.2.requestIds ∧
    ∀ later ∈ after, id ∉ later.2.requestIds ∧ later.1.repliedId? later.2 ≠ some id

/-- The step of `Trace.AwaitsReply`: what one more call at the end makes of the ids that await a
reply: those of its events join them, and the one that it replied to leaves them. -/
theorem Trace.awaitsReply_concat_iff {trace : Trace} {step : Operation × Outcome}
    {id : RequestId} :
    Trace.AwaitsReply (trace ++ [step]) id ↔
      id ∈ step.2.requestIds ∨
        Trace.AwaitsReply trace id ∧ step.1.repliedId? step.2 ≠ some id := by
  constructor
  · rintro ⟨before, found, after, htrace, hfound, hlater⟩
    -- The call that gave back the event is the last one, or it stands before the last.
    cases after using List.reverseRecOn with
    | nil =>
      obtain ⟨-, hstep⟩ := List.append_inj' htrace rfl
      cases hstep
      exact Or.inl hfound
    | append_singleton rest last _ =>
      have hsplit : trace ++ [step] = (before ++ found :: rest) ++ [last] := by
        rw [htrace, List.append_assoc, List.cons_append]
      obtain ⟨hbefore, hstep⟩ := List.append_inj' hsplit rfl
      cases hstep
      refine Or.inr ⟨⟨before, found, rest, hbefore, hfound, fun later hmem => ?_⟩, ?_⟩
      · exact hlater later (List.mem_append_left _ hmem)
      · exact (hlater step (List.mem_append_right _ (List.mem_singleton_self _))).2
  · intro h
    -- An event of the last call decides by itself; otherwise the call that gave the id back stands
    -- before it.
    by_cases hnow : id ∈ step.2.requestIds
    · exact ⟨trace, step, [], rfl, hnow, fun later hmem => absurd hmem List.not_mem_nil⟩
    · rcases h with hmem | ⟨⟨before, found, after, rfl, hfound, hlater⟩, hreply⟩
      · exact absurd hmem hnow
      · refine ⟨before, found, after ++ [step], ?_, hfound, fun later hmem => ?_⟩
        · rw [List.append_assoc, List.cons_append]
        · rcases List.mem_append.mp hmem with hold | hnew
          · exact hlater later hold
          · rw [List.mem_singleton.mp hnew]
            exact ⟨hnow, hreply⟩

/-- A call without an `Operation.response?` replies to nothing, whatever comes of it. -/
theorem Operation.repliedId?_of_response? {op : Operation} (h : op.response? = none)
    (outcome : Outcome) : op.repliedId? outcome = none := by
  unfold Operation.repliedId?
  rw [h, Option.map_none, ite_self]

/-- A reply that is sent replies to the id of its response. -/
theorem Operation.repliedId?_done {op : Operation} {response : Response}
    (h : op.response? = some response) : op.repliedId? (.done (.ok ())) = some response.id := by
  unfold Operation.repliedId?
  rw [h]
  rfl

/-- A call that asks for a request asks for no response. -/
theorem Operation.response?_of_request? {op : Operation} {config : Config}
    {request : ClientRequest × Option Json} (h : op.request? config = some request) :
    op.response? = none := by
  cases op with
  | sendInitialize | sendShutdown => rfl
  | _ => cases h

/-- A call with an `Outcome.refusal?` replies to nothing and gives back no event, so it leaves the
ids that await a reply as they were. -/
theorem Outcome.of_refusal {outcome : Outcome} {e : StateError}
    (h : outcome.refusal? = some e) (op : Operation) :
    op.repliedId? outcome = none ∧ outcome.requestIds = [] := by
  refine ⟨?_, ?_⟩
  · unfold Operation.repliedId?
    rw [h, if_neg (Option.some_ne_none e)]
  · cases outcome with
    | fed result | drained bytes => cases h
    | requested result | done result => rfl

/-! ### One call -/

/-- A call of the server that is taken note of by `track` is among those that await a reply, along
with those that did so before. -/
theorem isAwaitingReply_track (c : Client) (known : Option RequestId) (id : RequestId) :
    (c.track known).isAwaitingReply id = true ↔
      id ∈ known.toList ∨ c.isAwaitingReply id = true := by
  cases known with
  | none => simp [track, isAwaitingReply]
  | some other =>
    have hinsert := IdSet.contains_insert c.awaitingReply other id
    simpa [track, isAwaitingReply] using hinsert

/-- A document that is `Handled` adds the id of its event to those that await a reply. Replies to
the client have events without an id, and add nothing. -/
theorem Handled.isAwaitingReply_iff {c next : Client} {event : Event} (h : Handled c next event)
    (id : RequestId) :
    next.isAwaitingReply id = true ↔
      id ∈ event.requestId?.toList ∨ c.isAwaitingReply id = true := by
  cases h with
  | call hcall => exact isAwaitingReply_track c _ id
  | initialized | initializeFailed | shutdownAcked | shutdownFailed =>
    exact (or_iff_right List.not_mem_nil).symm

/-- A batch that is `HandledAll` adds the ids of its events to those that await a reply, and takes
none out. -/
theorem HandledAll.isAwaitingReply_iff {c last : Client} {events : List Event}
    (h : HandledAll c last events) (id : RequestId) :
    last.isAwaitingReply id = true ↔
      id ∈ events.filterMap Event.requestId? ∨ c.isAwaitingReply id = true := by
  induction h with
  | nil c => exact (or_iff_right List.not_mem_nil).symm
  | cons head tail ih =>
    -- The id of the first event may have been added first or last.
    rw [ih, head.isAwaitingReply_iff, filterMap_cons_eq_append, List.mem_append, ← or_assoc,
      or_comm (b := id ∈ Option.toList _)]

/-- The law of one call, by `Performed`: after it an id awaits a reply if the call gave back an
event with it, or if it did so before and the call did not reply to it. -/
theorem Performed.isAwaitingReply_iff {c next : Client} {op : Operation} {outcome : Outcome}
    (h : Performed c op next outcome) (id : RequestId) :
    next.isAwaitingReply id = true ↔
      id ∈ outcome.requestIds ∨
        c.isAwaitingReply id = true ∧ op.repliedId? outcome ≠ some id := by
  -- Most calls give back no event and reply to nothing.
  have hsilent (hids : outcome.requestIds = []) (hreply : op.repliedId? outcome = none) :
      c.isAwaitingReply id = true ↔
        id ∈ outcome.requestIds ∨
          c.isAwaitingReply id = true ∧ op.repliedId? outcome ≠ some id := by
    rw [hids, hreply]
    simp
  cases h with
  | fed h =>
    rename_i bytes result
    have hreply : Operation.repliedId? (.feed bytes) (.fed result) = none :=
      Operation.repliedId?_of_response? rfl _
    cases h with
    | waiting | misframed | rejected => exact hsilent rfl hreply
    | accepted hdecode hbatch =>
      rw [hreply, (handledAll_of_handleAll hbatch).isAwaitingReply_iff id]
      exact or_congr_right (and_iff_left (Option.some_ne_none id).symm).symm
  | drained => exact hsilent rfl (Operation.repliedId?_of_response? rfl _)
  | requested hop hstate =>
    have hnone := Operation.response?_of_request? hop
    exact hsilent rfl (Operation.repliedId?_of_response? hnone _)
  | exited hstate => exact hsilent rfl (Operation.repliedId?_of_response? rfl _)
  | replied hop hstate hawaiting =>
    rename_i response
    have hother : op.repliedId? (.done (.ok ())) ≠ some id ↔ id ≠ response.id := by
      rw [Operation.repliedId?_done hop, ne_eq, Option.some.injEq, eq_comm]
    show (c.awaitingReply.erase response.id).contains id = true ↔ id ∈ [] ∨ _
    rw [IdSet.contains_erase, hother, or_iff_right List.not_mem_nil, and_comm]
    rfl
  | refused h =>
    obtain ⟨hreply, hids⟩ := Outcome.of_refusal h op
    exact hsilent hids hreply

/-! ### Runs -/

/-- After a run an id awaits a reply if the trace says so (`Trace.AwaitsReply`), or if it did so
before and no call of the run replied to it. -/
theorem run_isAwaitingReply_iff (c : Client) (ops : List Operation) (id : RequestId) :
    (c.run ops).1.isAwaitingReply id = true ↔
      (c.run ops).2.AwaitsReply id ∨
        c.isAwaitingReply id = true ∧
          ∀ step ∈ (c.run ops).2, step.1.repliedId? step.2 ≠ some id := by
  -- The last call decides, so the induction takes calls away from the end.
  induction ops using List.reverseRecOn with
  | nil =>
    have hnone : ¬ Trace.AwaitsReply [] id := by
      rintro ⟨before, step, after, htrace, -, -⟩
      simp at htrace
    show c.isAwaitingReply id = true ↔ Trace.AwaitsReply [] id ∨ _
    simp [hnone, run]
  | append_singleton ops op ih =>
    have hlast := (performed_perform (c.run ops).1 op).isAwaitingReply_iff id
    have hrun : c.run (ops ++ [op]) =
        (((c.run ops).1.perform op).1,
          (c.run ops).2 ++ [(op, ((c.run ops).1.perform op).2)]) := by
      rw [run_append]
      rfl
    rw [hrun]
    simp only [hlast, ih, Trace.awaitsReply_concat_iff, List.forall_mem_append,
      List.forall_mem_singleton]
    rw [or_and_right, and_assoc, or_assoc]

/-! ### Replies that are sent -/

/-- The three replies differ in their responses, and in what they call themselves when they are
refused. All of them go through `reply`. -/
theorem exists_perform_eq_reply (c : Client) {op : Operation} {response : Response}
    (hop : op.response? = some response) :
    ∃ operation, c.perform op =
      ((c.reply operation response).1, .done (c.reply operation response).2) := by
  cases op with
  | replyToShowMessageRequest | replyWithError | replyMethodNotFound =>
    cases hop
    exact ⟨_, rfl⟩
  | _ => cases hop

/-- A reply is sent (`.done (.ok ())`) exactly if the session has not ended and the server awaits a
reply to the id. No other field of the client plays a part. -/
theorem perform_eq_done_iff (c : Client) {op : Operation} {response : Response}
    (hop : op.response? = some response) :
    (c.perform op).2 = .done (.ok ()) ↔
      c.state ≠ .exited ∧ c.isAwaitingReply response.id = true := by
  obtain ⟨operation, hperform⟩ := exists_perform_eq_reply c hop
  rw [hperform]
  unfold reply requireAwaiting isAwaitingReply
  by_cases hstate : c.state = .exited
  · -- The end of the session is looked for first, so nothing is said of the id.
    have hterminal : c.state.isTerminal = true := by
      rw [hstate]
      rfl
    rw [if_pos hterminal]
    exact iff_of_false nofun fun h => h.1 hstate
  · have hgoes : ¬ c.state.isTerminal = true := by
      cases hplace : c.state with
      | exited => exact absurd hplace hstate
      | _ => exact Bool.false_ne_true
    rw [if_neg hgoes]
    cases c.awaitingReply.contains response.id with
    | false => exact iff_of_false nofun fun h => Bool.false_ne_true h.2
    | true => exact iff_of_true rfl ⟨hstate, rfl⟩

/-- A reply that is sent queues `Message.frames` of its response and takes the id out of those that
await a reply. Nothing else changes. -/
theorem perform_of_done {c : Client} {op : Operation} {response : Response}
    (hop : op.response? = some response) (h : (c.perform op).2 = .done (.ok ())) :
    (c.perform op).1 =
      { c with
          outgoing := c.outgoing ++ Frame.encode response.wire
          awaitingReply := c.awaitingReply.erase response.id } := by
  obtain ⟨operation, hperform⟩ := exists_perform_eq_reply c hop
  rw [hperform] at h ⊢
  unfold reply at h ⊢
  -- A reply that is not refused passed the check, and there is one way to go on from it.
  cases hrequire : c.requireAwaiting operation response.id with
  | error e =>
    rw [hrequire] at h
    cases h
  | ok _ => rfl

/-- A call that replied to an id found it awaiting a reply, and gave back no event. -/
theorem Performed.of_repliedId? {c next : Client} {op : Operation} {outcome : Outcome}
    {id : RequestId} (h : Performed c op next outcome) (hreply : op.repliedId? outcome = some id) :
    c.isAwaitingReply id = true ∧ outcome.requestIds = [] := by
  cases h with
  | fed | drained | exited =>
    rw [Operation.repliedId?_of_response? rfl] at hreply
    cases hreply
  | requested hop hstate =>
    rw [Operation.repliedId?_of_response? (Operation.response?_of_request? hop)] at hreply
    cases hreply
  | replied hop hstate hawaiting =>
    rw [Operation.repliedId?_done hop] at hreply
    cases hreply
    exact ⟨hawaiting, rfl⟩
  | refused h =>
    rw [(Outcome.of_refusal h op).1] at hreply
    cases hreply

/-! ### Responses and requests -/

/-- The responses that a call sends are the one to the id that it replied to. So
`Operation.messages` and `Operation.repliedId?` agree. -/
theorem Performed.responseIds_eq {c next : Client} {op : Operation} {outcome : Outcome}
    (h : Performed c op next outcome) (config : Config) :
    (op.messages config outcome).filterMap Message.responseId? =
      (op.repliedId? outcome).toList := by
  cases h with
  | fed h =>
    rename_i result
    cases result with
    | error e => rfl
    | ok events =>
      rw [Operation.repliedId?_of_response? rfl]
      -- The one event that a message goes with is followed by a notification.
      refine List.filterMap_eq_nil_iff.mpr fun message hmessage => ?_
      obtain ⟨event, -, hevent⟩ := List.mem_filterMap.mp hmessage
      exact Event.responseId?_message? hevent
  | drained => rfl
  | requested hop hstate =>
    cases op with
    | sendInitialize | sendShutdown => rfl
    | _ => cases hop
  | exited => rfl
  | replied hop hstate hawaiting =>
    cases op with
    | replyToShowMessageRequest | replyWithError | replyMethodNotFound => rfl
    | _ => cases hop
  | refused h =>
    rw [(Outcome.of_refusal h op).1, (Outcome.silent_of_refusal h config op).2]
    rfl

/-- The responses to an id among the `Operation.messages` of a call, with one that is awaited after
it, are no more than the events with the id that it gives back, with one that was awaited before it.
An id in the set counts once, however often it was asked with. -/
theorem Performed.count_responses {c next : Client} {op : Operation} {outcome : Outcome}
    (h : Performed c op next outcome) (id : RequestId) :
    ((op.messages c.config outcome).filterMap Message.responseId?).count id +
        (next.isAwaitingReply id).toNat ≤
      (c.isAwaitingReply id).toNat + outcome.requestIds.count id := by
  have hnext := h.isAwaitingReply_iff id
  rw [h.responseIds_eq c.config]
  by_cases hreply : op.repliedId? outcome = some id
  · -- The reply takes out of the set what it found there.
    obtain ⟨hawaiting, hids⟩ := h.of_repliedId? hreply
    have hout : next.isAwaitingReply id = false := by
      rw [← Bool.not_eq_true, hnext, hids]
      simp [hreply]
    rw [hreply, hawaiting, hout, Option.toList_some, List.count_singleton_self]
    exact Nat.le_add_right _ _
  · have hnone : (op.repliedId? outcome).toList.count id = 0 := by
      rw [List.count_eq_zero, Option.mem_toList]
      exact hreply
    rw [hnone, Nat.zero_add]
    cases hawaited : next.isAwaitingReply id with
    | false => exact Nat.zero_le _
    | true =>
      rcases hnext.mp hawaited with hnew | ⟨hold, -⟩
      · exact Nat.le_add_left_of_le (List.count_pos_iff.mpr hnew)
      · rw [hold]
        exact Nat.le_add_right _ _

/-- The responses that a run sends to an id, with one that is awaited after it, are no more than the
events with the id that it gives back, with one that was awaited before it. The induction adds up
`Performed.count_responses`. -/
theorem run_count_responses (c : Client) (ops : List Operation) (id : RequestId) :
    (((c.run ops).2.messages c.config).filterMap Message.responseId?).count id +
        ((c.run ops).1.isAwaitingReply id).toNat ≤
      (c.isAwaitingReply id).toNat +
        ((c.run ops).2.events.filterMap Event.requestId?).count id := by
  induction ops generalizing c with
  | nil => exact Nat.le_of_eq (Nat.add_comm _ _)
  | cons op rest ih =>
    have hstep := performed_perform c op
    have hone := hstep.count_responses id
    have hrest := ih (c.perform op).1
    rw [hstep.config_eq] at hrest
    rw [run_cons]
    simp only [Trace.messages, Trace.events, List.flatMap_cons, List.filterMap_append,
      List.count_append, Outcome.requestIds] at hone hrest ⊢
    omega

/-- After a `run` the ids that await a reply are those whose event has been given back, with no
reply since the last such event. Each of the three replies is sent exactly if the session has not
ended and its id is one of them. Then it queues the frame of its one response, its id no longer
awaits a reply, and all else stays as it was, whatever requests of the client are pending. The bytes
of the client are the frames of its messages, and among these the responses to an id are no more
than the events with it. -/
theorem replies_of_run (config : Config) (ops : List Operation) :
    let c := ((ofConfig config).run ops).1
    let trace := ((ofConfig config).run ops).2
    (∀ id, c.isAwaitingReply id = true ↔ trace.AwaitsReply id) ∧
      (∀ op response, op.response? = some response →
        ((c.perform op).2 = .done (.ok ()) ↔
          c.state ≠ .exited ∧ c.isAwaitingReply response.id = true) ∧
        ((c.perform op).2 = .done (.ok ()) →
          (c.perform op).1 =
            { c with
                outgoing := c.outgoing ++ Frame.encode response.wire
                awaitingReply := c.awaitingReply.erase response.id } ∧
          (c.perform op).1.isAwaitingReply response.id = false ∧
          ∀ other, other ≠ response.id →
            (c.perform op).1.isAwaitingReply other = c.isAwaitingReply other)) ∧
      trace.taken ++ c.outgoing = Message.frames (trace.messages config) ∧
      ∀ id, ((trace.messages config).filterMap Message.responseId?).count id ≤
        (trace.events.filterMap Event.requestId?).count id := by
  intro c trace
  refine ⟨fun id => ?_, fun op response hop => ⟨perform_eq_done_iff c hop, fun hdone => ?_⟩,
    run_drained_append (ofConfig config) ops, fun id => ?_⟩
  -- A new client awaits nothing, so only the trace counts.
  · have hrun := run_isAwaitingReply_iff (ofConfig config) ops id
    have hnew : (ofConfig config).isAwaitingReply id = false := rfl
    rw [hnew] at hrun
    simpa using hrun
  · have hnext := perform_of_done hop hdone
    refine ⟨hnext, ?_, fun other hother => ?_⟩
    · rw [hnext, ← Bool.not_eq_true]
      intro hin
      exact ((IdSet.contains_erase _ _ _).mp hin).1 rfl
    · rw [hnext, Bool.eq_iff_iff]
      exact (IdSet.contains_erase _ _ _).trans (and_iff_right hother)
  · have hcount := run_count_responses (ofConfig config) ops id
    have hnew : (ofConfig config).isAwaitingReply id = false := rfl
    rw [hnew, Bool.toNat_false, Nat.zero_add] at hcount
    exact Nat.le_trans (Nat.le_add_right _ _) hcount

end Client

end LspSession
