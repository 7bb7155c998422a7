import LspSession.Proofs.Client.Accept
import LspSession.Proofs.Client.Course

/-!
# `LspSession.Proofs.Client.Pending`: the one request that awaits a response

The table of pending requests has room for many, and a client never has more than one there: the
request that it sent last, while the session stands behind its sending. `pending_of_run` says which
entry that is, down to the id and the method of the request that is kept in it, and that the table
is empty everywhere else. It says so without regard to how many requests were sent, with numbers
that wrap around.

The same holds of the clients inside a batch (`Accepts.handledAll`), though the batch was validated
against the client before it. A response finds its request pending, so when it is applied the
session stands where it awaits a response to that request, and a batch holds no second response.
-/

set_option autoImplicit false

namespace LspSession.Client

/-! ### The entry of the pending request -/

/-- The ids of the requests that await a response, as they stand in `pending`. -/
def pendingIds (c : Client) : List RequestId := c.pending.map Prod.fst

/-- The table has one entry at most, since `Lifecycle.awaited?` names one request at most. -/
theorem Consistent.length_pending_le {c : Client} (hc : c.Consistent) : c.pending.length ≤ 1 := by
  have hlen := congrArg List.length hc.kinds_pending
  rw [List.length_map] at hlen
  rw [hlen]
  exact Option.length_toList_le

/-- An entry that `find?` finds is the whole table of a consistent client. -/
theorem Consistent.pending_eq_of_find? {c : Client} (hc : c.Consistent) {id : RequestId}
    {pending : PendingRequest} (h : c.pending.find? id = some pending) :
    c.pending = [(id, pending)] := by
  obtain ⟨before, after, htable, -⟩ := List.lookup_eq_some_iff.mp h
  have hlen := hc.length_pending_le
  rw [htable, List.length_append, List.length_cons] at hlen
  -- The entry takes up all the room that there is.
  have hbefore : before = [] := List.eq_nil_of_length_eq_zero (by omega)
  have hafter : after = [] := List.eq_nil_of_length_eq_zero (by omega)
  rw [htable, hbefore, hafter]
  rfl

/-- A document that is found valid answers what leaves the table: the id that it answers, if any,
with the `pendingIds` after it, are the `pendingIds` before. -/
theorem Consistent.replyId_append {c : Client} (hc : c.Consistent) {document : Json}
    {incoming : Incoming} (h : c.validateOne [] document = .ok incoming) :
    incoming.replyId?.toList ++ (c.apply incoming).1.pendingIds = c.pendingIds := by
  unfold pendingIds
  rw [pending_apply]
  rcases validateOne_cases h with ⟨_, _, _, event, -, -, rfl⟩ | ⟨response, kind, -, -, hid, hkind⟩
  · rfl
  · -- The request that it answers was the only one, and its entry is erased.
    obtain ⟨request, hpending⟩ := find?_of_validateOne h hid hkind
    rw [hid, Option.elim_some, (hc.of_find? hpending).2, hc.pending_eq_of_find? hpending]
    rfl

/-- A batch that a client `Accepts` answers what leaves the table. The induction is on the batch,
and each document is looked at by the client that stands before it. -/
theorem Accepts.replyIds_append {c : Client} {documents : List Json} {incoming : List Incoming}
    (h : Accepts c documents incoming) (hc : c.Consistent) :
    incoming.filterMap Incoming.replyId? ++ (c.applyAll incoming).1.pendingIds =
      c.pendingIds := by
  induction h with
  | nil c => rfl
  | cons head tail ih =>
    rw [filterMap_cons_eq_append, applyAll_cons, List.append_assoc,
      ih ((handled_of_validateOne head).follows hc).1, hc.replyId_append head]

/-- A batch that a client `Accepts` holds one response at most, because the table that its responses
come out of has one entry at most. -/
theorem Accepts.length_responses_le {c : Client} {documents : List Json}
    {incoming : List Incoming} (h : Accepts c documents incoming) (hc : c.Consistent) :
    (documents.filterMap Message.response?).length ≤ 1 := by
  -- Counted, the ids answered are no more than those that were awaited.
  have hids := congrArg List.length (h.replyIds_append hc)
  rw [h.replyIds_eq, List.length_append, List.length_map, pendingIds, pendingIds, List.length_map,
    List.length_map] at hids
  have hlen := hc.length_pending_le
  omega

/-- A response that is applied in the course of a batch finds the session where it awaits a response
to the request of its kind, though the batch was validated as a whole before. -/
theorem Accepts.state_eq_target {c : Client} {documents : List Json}
    {early late : List Incoming} {incoming : Incoming} {id : RequestId} {kind : ClientRequest}
    (h : Accepts c documents (early ++ incoming :: late)) (hc : c.Consistent)
    (hid : incoming.replyId? = some id) (hkind : incoming.replyKind? = some kind) :
    (c.applyAll early).1.state = kind.target := by
  obtain ⟨front, hfront⟩ := h.of_append
  obtain ⟨document, hvalid⟩ := h.exists_validateOne
  obtain ⟨request, hpending⟩ := find?_of_validateOne hvalid hid hkind
  exact ((hfront.handledAll.follows hc).1.of_find? hpending).1

/-! ### The request that was sent last -/

/-- The entry of the request that a client sent last. Its number is one less than `nextId`, and
wraps around as the numbers of requests do. -/
def lastEntry (c : Client) (kind : ClientRequest) (params : Option Json) :
    RequestId × PendingRequest :=
  (.integer (c.nextId - 1), ⟨kind, ⟨.integer (c.nextId - 1), kind.method, params⟩⟩)

/-- No request awaits a response but the one that was sent last. With `Consistent` this says what
the table is. -/
def AwaitsLast (c : Client) : Prop :=
  ∀ entry ∈ c.pending, ∃ kind params, entry = c.lastEntry kind params

/-- A client whose `pending` table has shrunk since it last sent a request awaits a response to that
one, or to none. -/
theorem AwaitsLast.of_subset {c next : Client} (h : c.AwaitsLast)
    (hnext : next.nextId = c.nextId) (hpending : next.pending ⊆ c.pending) : next.AwaitsLast := by
  intro entry hentry
  obtain ⟨kind, params, rfl⟩ := h entry (hpending hentry)
  refine ⟨kind, params, ?_⟩
  unfold lastEntry
  rw [hnext]

/-- A document that is `Handled` gives out no number and adds no entry. A reply takes an entry out,
and a call leaves the table alone. -/
theorem Handled.pending_subset {c next : Client} {event : Event} (h : Handled c next event) :
    next.nextId = c.nextId ∧ next.pending ⊆ c.pending := by
  cases h with
  | call hcall => exact ⟨rfl, List.Subset.refl _⟩
  | initialized | initializeFailed | shutdownAcked | shutdownFailed =>
    exact ⟨rfl, List.filter_sublist.subset⟩

/-- A batch that is `HandledAll` gives out no number and adds no entry, because none of its
documents does. -/
theorem HandledAll.pending_subset {c last : Client} {events : List Event}
    (h : HandledAll c last events) : last.nextId = c.nextId ∧ last.pending ⊆ c.pending := by
  induction h with
  | nil c => exact ⟨rfl, List.Subset.refl _⟩
  | cons head tail ih =>
    obtain ⟨hnext, hpending⟩ := head.pending_subset
    exact ⟨ih.1.trans hnext, List.Subset.trans ih.2 hpending⟩

/-- After a call (`Performed`) too, no request awaits a response but the one that was sent last.
Only a call that sends a request adds an entry, and it finds the table empty. -/
theorem Performed.awaitsLast {c next : Client} {op : Operation} {outcome : Outcome}
    (h : Performed c op next outcome) (hc : c.Consistent) (hlast : c.AwaitsLast) :
    next.AwaitsLast := by
  cases h with
  | fed h =>
    cases h with
    | waiting | misframed | rejected => exact hlast.of_subset rfl (List.Subset.refl _)
    | accepted hdecode hbatch =>
      obtain ⟨hnext, hpending⟩ := (handledAll_of_handleAll hbatch).pending_subset
      exact hlast.of_subset hnext hpending
  | requested hop hstate =>
    rename_i kind params
    -- None was pending where the request may be sent, so its entry is the only one.
    have hempty : c.pending = [] := hc.pending_eq_nil (by rw [hstate]; cases kind <;> rfl)
    intro entry hentry
    refine ⟨kind, params, ?_⟩
    have hentry' : entry ∈ c.pending.insert (.integer c.nextId)
      ⟨kind, ⟨.integer c.nextId, kind.method, params⟩⟩ := hentry
    rw [hempty] at hentry'
    rw [List.mem_singleton.mp hentry']
    show _ = lastEntry { (c.sendRequest kind params).1 with state := kind.target } kind params
    -- The next number has gone up by one, so one less is the number of this request.
    have hnumber : c.nextId + 1 - 1 = c.nextId := by grind
    show _ = (RequestId.integer (c.nextId + 1 - 1),
      PendingRequest.mk kind ⟨.integer (c.nextId + 1 - 1), kind.method, params⟩)
    rw [hnumber]
  | drained | exited | replied => exact hlast.of_subset rfl (List.Subset.refl _)
  | refused => exact hlast

/-- After a run too, no request awaits a response but the one that was sent last. The induction
carries `Consistent` along, which `Performed.awaitsLast` needs. -/
theorem run_awaitsLast {c : Client} (hc : c.Consistent) (hlast : c.AwaitsLast)
    (ops : List Operation) : (c.run ops).1.AwaitsLast := by
  induction ops generalizing c with
  | nil => exact hlast
  | cons op rest ih =>
    have hperformed := performed_perform c op
    rw [run_cons]
    exact ih (hperformed.follows hc).1 (hperformed.awaitsLast hc hlast)

/-- The table of a client that awaits a response holds the request that was sent last, under its own
id, and nothing else. -/
theorem AwaitsLast.pending_eq {c : Client} (hlast : c.AwaitsLast) (hc : c.Consistent)
    (kind : ClientRequest) (h : c.state = kind.target) :
    ∃ params, c.pending = [c.lastEntry kind params] := by
  have hkinds := hc.kinds_pending
  rw [Lifecycle.awaited?_eq_some_iff.mpr h] at hkinds
  obtain ⟨entry, hentry, hkind⟩ := List.map_eq_singleton_iff.mp hkinds
  obtain ⟨kind', params, rfl⟩ := hlast entry (by rw [hentry]; exact List.mem_singleton_self _)
  cases hkind
  exact ⟨params, hentry⟩

/-- A client awaits a response where it has sent a request, and the `pending` table then holds that
request under its own id; elsewhere the table is empty. In a batch that is found valid, every reply
is applied where the session awaits it, and there is one response at most. -/
theorem pending_of_run (config : Config) (ops : List Operation) :
    let c := ((ofConfig config).run ops).1
    let last : RequestId := .integer (c.nextId - 1)
    (c.state = .awaitingInitializeAck → ∃ params,
        c.pending = [(last, ⟨.initialization, ⟨last, "initialize", params⟩⟩)]) ∧
      (c.state = .awaitingShutdownAck → ∃ params,
        c.pending = [(last, ⟨.shutdown, ⟨last, "shutdown", params⟩⟩)]) ∧
      (c.state ≠ .awaitingInitializeAck → c.state ≠ .awaitingShutdownAck → c.pending = []) ∧
      ∀ bytes d incoming,
        Frame.decode c.config.maxMessageSize (c.received ++ bytes) = .ok d →
        (c.receive bytes).validate d.documents = .ok incoming →
        c.feed bytes = ((c.discard.applyAll incoming).1, .ok (c.discard.applyAll incoming).2) ∧
          (∀ early id outcome late, incoming = early ++ .initializeReply id outcome :: late →
            (c.discard.applyAll early).1.state = .awaitingInitializeAck) ∧
          (∀ early id outcome late, incoming = early ++ .shutdownReply id outcome :: late →
            (c.discard.applyAll early).1.state = .awaitingShutdownAck) ∧
          (d.documents.filterMap Message.response?).length ≤ 1 := by
  intro c last
  have hc : c.Consistent := (run_follows (consistent_ofConfig config) ops).1
  have hlast : c.AwaitsLast := run_awaitsLast (consistent_ofConfig config) nofun ops
  refine ⟨hlast.pending_eq hc .initialization, hlast.pending_eq hc .shutdown, ?_, ?_⟩
  · intro hinitialize hshutdown
    refine hc.pending_eq_nil ?_
    -- A session that awaits something stands at one of the two places that are excluded.
    cases hawaited : c.state.awaited? with
    | none => rfl
    | some kind =>
      have hstate := Lifecycle.awaited?_eq_some_iff.mp hawaited
      cases kind with
      | initialization => exact absurd hstate hinitialize
      | shutdown => exact absurd hstate hshutdown
  · intro bytes d incoming hdecode hvalid
    have hfeed := feed_of_validate hdecode hvalid
    rw [validate_receive] at hvalid
    have haccepts : Accepts c.discard d.documents incoming := accepts_of_validate hvalid
    have hdiscard : c.discard.Consistent := ⟨hc.kinds_pending, hc.isSome_capabilities⟩
    refine ⟨hfeed, ?_, ?_, haccepts.length_responses_le hdiscard⟩
    · rintro early id outcome late rfl
      exact haccepts.state_eq_target hdiscard rfl rfl
    · rintro early id outcome late rfl
      exact haccepts.state_eq_target hdiscard rfl rfl

end LspSession.Client
