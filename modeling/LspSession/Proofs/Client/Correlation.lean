import Mathlib.Data.List.Nodup
import LspSession.Proofs.Client.Faults
import LspSession.Proofs.Client.Pending
import LspSession.Proofs.Frame.RoundTrip

/-!
# `LspSession.Proofs.Client.Correlation`: which response answers which request

A client may send a request again after a failure, and the server may answer late, twice, or what
nobody asked. `Trace.issued` reads off a trace the ids that were given out, and `answered` which of
them the responses in accepted batches carry. `correlation_of_run` says that the ids are the numbers
from zero on, that each is answered once at most, and that a response to anything but the request
that awaits one is an error that names its id.

What carries it is one equation, `run_answered_append`: the ids answered so far, with those still
awaited, are the ids given out, in their order. It holds of every call (`perform_answered_append`),
whether numbers wrap around or not.
-/

set_option autoImplicit false

namespace LspSession

/-- The id that a document carries as a response does: with no `method` beside it. The member need
not be a good id for this. -/
def Message.replyMember? : Json → Option Json
  | .object members =>
    match Json.member? "method" members with
    | some _ => none
    | none => Json.member? "id" members
  | _ => none

/-- A document that carries an id as a response does is a response with that id, or no message. It
is never taken for a call. -/
theorem Message.classify_of_replyMember? {document member : Json}
    (h : replyMember? document = some member) :
    (∃ fault, classify document = .error fault) ∨
      ∃ r, classify document = .ok (.response r) ∧ RequestId.ofMember member = .ok r.id := by
  cases document with
  | object members =>
    simp only [replyMember?] at h
    split at h
    · cases h
    · next hmethod =>
      simp only [classify, ofMembers, readId?, h, hmethod]
      cases hid : RequestId.ofMember member with
      | error fault => exact Or.inl ⟨fault, rfl⟩
      | ok id =>
        -- The id is read, and what remains is the result or the failure.
        simp only [Except.map, ofResponse]
        split
        · exact Or.inr ⟨_, rfl, rfl⟩
        · split
          · exact Or.inr ⟨_, rfl, rfl⟩
          · exact Or.inl ⟨_, rfl⟩
        · exact Or.inl ⟨_, rfl⟩
        · exact Or.inl ⟨_, rfl⟩
  | _ => cases h

namespace Client

/-! ### What is given out and what is answered -/

/-- The id of the request that a call sent, if it sent one. -/
def Outcome.issued? : Outcome → Option RequestId
  | .requested (.ok id) => some id
  | _ => none

/-- The ids of the requests that the calls of a trace sent, in their order. Nothing but the trace is
needed to know them. -/
def Trace.issued (trace : Trace) : List RequestId := trace.filterMap fun step => step.2.issued?

/-- The ids of the responses among the documents that bytes complete, if the batch is accepted.
Bytes that are kept or refused answer nothing. -/
def answeredBy (c : Client) (bytes : Bytes) : List RequestId :=
  match Frame.decode c.config.maxMessageSize (c.received ++ bytes) with
  | .error _ => []
  | .ok d =>
    match (c.receive bytes).validate d.documents with
    | .error _ => []
    | .ok _ => (d.documents.filterMap Message.response?).map (·.id)

/-- The ids of the responses that a call feeds in a batch that is accepted. -/
def Operation.answered (c : Client) : Operation → List RequestId
  | .feed bytes => c.answeredBy bytes
  | _ => []

/-- The `Operation.answered` of the calls of a run: the ids of the responses that the calls of a run
feed in batches that are accepted, in their order. -/
def answered (c : Client) : List Operation → List RequestId
  | [] => []
  | op :: rest => op.answered c ++ (c.perform op).1.answered rest

/-! ### One call -/

/-- A batch that `validate` does not find valid is thrown away with its bytes, and answers nothing.
-/
theorem feed_of_invalid {c : Client} {bytes : Bytes} {d : Frame.Decoded} {e : ProtocolError}
    (hdecode : Frame.decode c.config.maxMessageSize (c.received ++ bytes) = .ok d)
    (hvalid : (c.receive bytes).validate d.documents = .error e) :
    c.feed bytes = (c.discard, .error e) := by
  rw [validate_receive] at hvalid
  rw [feed_of_decode hdecode, handleAll_eq, hvalid]
  rfl

/-- Bytes that are fed answer what leaves the table: the ids in `answeredBy`, with those awaited
afterwards, are those that were awaited before. Bytes that are kept or refused do so with no ids at
all. -/
theorem feed_answeredBy_append {c : Client} (hc : c.Consistent) (bytes : Bytes) :
    c.answeredBy bytes ++ (c.feed bytes).1.pendingIds = c.pendingIds := by
  unfold answeredBy
  cases hdecode : Frame.decode c.config.maxMessageSize (c.received ++ bytes) with
  | error e =>
    simp only [feed_of_error hdecode]
    cases e.isIncomplete <;> rfl
  | ok d =>
    cases hvalid : (c.receive bytes).validate d.documents with
    | error e =>
      simp only [feed_of_invalid hdecode hvalid, hvalid]
      rfl
    | ok incoming =>
      simp only [feed_of_validate hdecode hvalid, hvalid]
      rw [validate_receive] at hvalid
      have haccepts : Accepts c.discard d.documents incoming := accepts_of_validate hvalid
      have hdiscard : c.discard.Consistent := ⟨hc.kinds_pending, hc.isSome_capabilities⟩
      show (d.documents.filterMap Message.response?).map (·.id) ++ _ = c.discard.pendingIds
      rw [← haccepts.replyIds_eq]
      exact haccepts.replyIds_append hdiscard

/-- A call gives out the next number, or none, and `nextId` goes up by one exactly when it does. -/
theorem Performed.issued?_cases {c next : Client} {op : Operation} {outcome : Outcome}
    (h : Performed c op next outcome) :
    (outcome.issued? = none ∧ next.nextId = c.nextId) ∨
      outcome.issued? = some (.integer c.nextId) ∧ next.nextId = c.nextId + 1 := by
  cases h with
  | fed h =>
    cases h with
    | waiting | misframed | rejected => exact Or.inl ⟨rfl, rfl⟩
    | accepted hdecode hbatch =>
      exact Or.inl ⟨rfl, (handledAll_of_handleAll hbatch).pending_subset.1⟩
  | requested => exact Or.inr ⟨rfl, rfl⟩
  | drained | exited | replied => exact Or.inl ⟨rfl, rfl⟩
  | refused h =>
    cases outcome with
    | fed result | drained bytes => cases h
    | requested result | done result =>
      cases result with
      | ok value => cases h
      | error e => exact Or.inl ⟨rfl, rfl⟩

/-- A call that feeds no bytes adds to the `pending` table what it gives out, and takes nothing from
it. -/
theorem Performed.pendingIds_eq {c next : Client} {op : Operation} {outcome : Outcome}
    (h : Performed c op next outcome) (hc : c.Consistent) (hop : op.isFeed = false) :
    next.pendingIds = c.pendingIds ++ outcome.issued?.toList := by
  cases h with
  | fed h => cases hop
  | requested hop hstate =>
    rename_i kind params
    -- A request is sent only where none is awaited.
    have hempty : c.pending = [] := hc.pending_eq_nil (by rw [hstate]; cases kind <;> rfl)
    show (c.pending.insert _ _).map Prod.fst = c.pending.map Prod.fst ++ _
    rw [hempty]
    rfl
  | drained | exited | replied => exact (List.append_nil _).symm
  | refused h =>
    cases outcome with
    | fed result | drained bytes => cases h
    | requested result | done result =>
      cases result with
      | ok value => cases h
      | error e => exact (List.append_nil _).symm

/-- The law of one call: the ids that it answers, with the `pendingIds` after it, are the
`pendingIds` before it and the one that it gives out. -/
theorem perform_answered_append {c : Client} (hc : c.Consistent) (op : Operation) :
    op.answered c ++ (c.perform op).1.pendingIds =
      c.pendingIds ++ (c.perform op).2.issued?.toList := by
  cases hop : op.isFeed with
  | true =>
    cases op with
    | feed bytes => exact (feed_answeredBy_append hc bytes).trans (List.append_nil _).symm
    | _ => cases hop
  | false =>
    have hnone : op.answered c = [] := by
      cases op with
      | feed bytes => cases hop
      | _ => rfl
    rw [hnone]
    exact (performed_perform c op).pendingIds_eq hc hop

/-! ### Runs -/

/-- One call more in front of a trace: its `Outcome.issued?` stands before the rest. -/
theorem Trace.issued_cons (op : Operation) (outcome : Outcome) (trace : Trace) :
    Trace.issued ((op, outcome) :: trace) = outcome.issued?.toList ++ Trace.issued trace :=
  filterMap_cons_eq_append _ _ _

/-- The ids that a run answers, with those awaited after it, are those awaited before it and the
ones that it gives out, in their order. This adds up `perform_answered_append`, and holds whether
numbers wrap around or not. -/
theorem run_answered_append {c : Client} (hc : c.Consistent) (ops : List Operation) :
    c.answered ops ++ (c.run ops).1.pendingIds = c.pendingIds ++ (c.run ops).2.issued := by
  induction ops generalizing c with
  | nil => exact (List.append_nil _).symm
  | cons op rest ih =>
    have hnext := ((performed_perform c op).follows hc).1
    rw [run_cons, answered, Trace.issued_cons, List.append_assoc, ih hnext, ← List.append_assoc,
      perform_answered_append hc op, List.append_assoc]

/-- The ids that a run gives out are the numbers from `nextId` on, counted as `Int64` counts. -/
theorem run_issued (c : Client) (ops : List Operation) {i : Nat} {id : RequestId}
    (h : (c.run ops).2.issued[i]? = some id) : id = .integer (c.nextId + Int64.ofNat i) := by
  induction ops generalizing c i with
  | nil => cases h
  | cons op rest ih =>
    rw [run_cons, Trace.issued_cons] at h
    -- The first call gives out nothing, and the numbering starts behind it, or it gives out the
    -- first number.
    rcases (performed_perform c op).issued?_cases with ⟨hnone, hnumber⟩ | ⟨hsome, hnumber⟩
    · rw [hnone] at h
      rw [← hnumber]
      exact ih _ h
    · rw [hsome, Option.toList_some, List.singleton_append] at h
      cases i with
      | zero =>
        cases h
        simp
      | succ i =>
        rw [ih _ h, hnumber, Int64.ofNat_add]
        congr 1
        grind

/-! ### Responses that nobody asked for -/

/-- When a batch has come to the end of some documents, the request of an id awaits a response: it
is `pending`, and none of the documents has answered it. -/
def AwaitsAfter (c : Client) (documents : List Json) (id : RequestId) : Prop :=
  c.isPending id = true ∧ id ∉ (documents.filterMap Message.response?).map (·.id)

/-- A response to a request that is not pending is at fault. If it is a message at all, then the
fault is `ProtocolError.unexpectedResponse` with its id. -/
theorem handle_of_not_pending {c : Client} {document member : Json}
    (hmember : Message.replyMember? document = some member)
    (hnone : ∀ id, RequestId.ofMember member = .ok id → c.pending.find? id = none) :
    ∃ e, c.handle document = .error e ∧
      ∀ r, Message.response? document = some r → e = .unexpectedResponse r.id := by
  unfold handle validateOne Message.response?
  rcases Message.classify_of_replyMember? hmember with ⟨fault, hfault⟩ | ⟨r, hr, hid⟩
  · rw [hfault]
    exact ⟨_, rfl, nofun⟩
  · have hkind : c.answeredKind? [] r.id = none := by
      unfold answeredKind?
      rw [hnone _ hid]
      rfl
    rw [hr]
    simp only [understand, correlate, hkind]
    refine ⟨_, rfl, ?_⟩
    rintro r' hr'
    cases hr'
    rfl

/-- A response to a request that awaits none makes its batch an error. If the `early` documents
before it are valid and it is a message, then the error names its id. -/
theorem feed_of_unasked {c : Client} {bytes : Bytes} {d : Frame.Decoded} {early late : List Json}
    {document member : Json}
    (hdecode : Frame.decode c.config.maxMessageSize (c.received ++ bytes) = .ok d)
    (hdocuments : d.documents = early ++ document :: late)
    (hmember : Message.replyMember? document = some member)
    (hunasked : ∀ id, RequestId.ofMember member = .ok id → ¬ c.AwaitsAfter early id) :
    (∃ e, (c.feed bytes).2 = .error e) ∧
      ∀ r incoming, Message.response? document = some r →
        (c.receive bytes).validate early = .ok incoming →
        (c.feed bytes).2 = .error (.unexpectedResponse r.id) := by
  rw [feed_of_decode hdecode, hdocuments, handleAll_append, handleAll_eq,
    ← validate_receive c bytes]
  cases hearly : (c.receive bytes).validate early with
  | error e => exact ⟨⟨e, rfl⟩, nofun⟩
  | ok incoming =>
    rw [validate_receive] at hearly
    have hids := (accepts_of_validate hearly).replyIds_eq
    -- What the documents before it answer is no longer pending when the response is come to.
    have hnone : ∀ id, RequestId.ofMember member = .ok id →
        (c.discard.applyAll incoming).1.pending.find? id = none := by
      intro id hid
      rw [find?_applyAll, hids]
      by_cases hanswered : id ∈ (early.filterMap Message.response?).map (·.id)
      · rw [if_pos hanswered]
      · rw [if_neg hanswered, ← Option.not_isSome_iff_eq_none]
        exact fun hpending => hunasked id hid ⟨hpending, hanswered⟩
    obtain ⟨e, herror, hname⟩ := handle_of_not_pending hmember hnone
    simp only [Except.map, handleAll, herror]
    refine ⟨⟨e, rfl⟩, fun r _ hr _ => ?_⟩
    rw [hname r hr]

/-! ### Ids -/

/-- A request is pending exactly if its id is among `pendingIds`. -/
theorem isPending_iff_mem (c : Client) (id : RequestId) :
    c.isPending id = true ↔ id ∈ c.pendingIds := by
  unfold isPending pendingIds PendingTable.find?
  rw [List.lookup_isSome_iff, List.mem_map]
  refine exists_congr fun entry => and_congr_right fun _ => ?_
  rw [beq_iff_eq, eq_comm]

/-- Of less than `2 ^ 63` ids given out from zero on, each is the number of those before it. -/
theorem number_of_issued (config : Config) (ops : List Operation)
    (hfew : ((ofConfig config).run ops).2.issued.length < Nat.pow 2 63) {i : Nat} {id : RequestId}
    (h : ((ofConfig config).run ops).2.issued[i]? = some id) :
    ∃ number : Int64, id = .integer number ∧ number.toInt = i := by
  have hlt : i < ((ofConfig config).run ops).2.issued.length :=
    (List.getElem?_eq_some_iff.mp h).1
  refine ⟨Int64.ofNat i, ?_, Int64.toInt_ofNat_of_lt (Nat.lt_trans hlt hfew)⟩
  rw [run_issued _ ops h]
  show RequestId.integer (0 + Int64.ofNat i) = _
  rw [Int64.zero_add]

/-- Less than `2 ^ 63` ids given out from zero on are all different, since each tells its place
among them. -/
theorem nodup_issued (config : Config) (ops : List Operation)
    (hfew : ((ofConfig config).run ops).2.issued.length < Nat.pow 2 63) :
    ((ofConfig config).run ops).2.issued.Nodup := by
  rw [List.nodup_iff_getElem?_ne_getElem?]
  -- The same id at two places would be the number of both.
  intro i j hij hj heq
  obtain ⟨id, hid⟩ : ∃ id, ((ofConfig config).run ops).2.issued[j]? = some id :=
    ⟨_, List.getElem?_eq_getElem hj⟩
  obtain ⟨number, hnumber, hj⟩ := number_of_issued config ops hfew hid
  obtain ⟨number', hnumber', hi⟩ := number_of_issued config ops hfew (heq.trans hid)
  rw [hnumber] at hnumber'
  cases hnumber'
  omega

/-- The ids given out are those answered, in their order, and then the one that is awaited. While
there are fewer than `2 ^ 63` of them they are the numbers from zero on, each is answered once at
most, and an id that awaits a response is one of them that has not been answered. A batch in which a
response has come whose request awaits none is an error, and if nothing before the response is at
fault and it is a message, then the error names its id. -/
theorem correlation_of_run (config : Config) (ops : List Operation) :
    let c := ((ofConfig config).run ops).1
    let issued := ((ofConfig config).run ops).2.issued
    let answered := (ofConfig config).answered ops
    answered ++ c.pendingIds = issued ∧
      (issued.length < Nat.pow 2 63 →
        (∀ (i : Nat) id, issued[i]? = some id →
          ∃ number : Int64, id = .integer number ∧ number.toInt = i) ∧
        (∀ id, answered.count id ≤ 1) ∧
        ∀ id, c.isPending id = true →
          id ∈ issued ∧ id ∉ answered ∧ ∃ number : Int64, id = .integer number) ∧
      ∀ bytes d early document late member,
        Frame.decode c.config.maxMessageSize (c.received ++ bytes) = .ok d →
        d.documents = early ++ document :: late →
        Message.replyMember? document = some member →
        (∀ id, RequestId.ofMember member = .ok id → ¬ c.AwaitsAfter early id) →
        (∃ e, (c.feed bytes).2 = .error e) ∧
          ∀ r incoming, Message.response? document = some r →
            (c.receive bytes).validate early = .ok incoming →
            (c.feed bytes).2 = .error (.unexpectedResponse r.id) := by
  intro c issued answered
  have hids : answered ++ c.pendingIds = issued :=
    run_answered_append (consistent_ofConfig config) ops
  refine ⟨hids, fun hfew => ⟨fun i id => number_of_issued config ops hfew, ?_, ?_⟩, ?_⟩
  -- Ids that are all different are answered once at most, since the ones answered are the first of
  -- them.
  · have hnodup : issued.Nodup := nodup_issued config ops hfew
    rw [← hids] at hnodup
    exact List.nodup_iff_count_le_one.mp hnodup.of_append_left
  · intro id hpending
    have hawaited := (c.isPending_iff_mem id).mp hpending
    have hissued : id ∈ issued := by
      rw [← hids]
      exact List.mem_append_right _ hawaited
    have hnodup : issued.Nodup := nodup_issued config ops hfew
    rw [← hids] at hnodup
    obtain ⟨i, hi⟩ := List.mem_iff_getElem?.mp hissued
    obtain ⟨number, hnumber, -⟩ := number_of_issued config ops hfew hi
    -- What is awaited stands behind what was answered, and nothing stands twice.
    exact ⟨hissued, fun hanswered => (List.disjoint_of_nodup_append hnodup) hanswered hawaited,
      number, hnumber⟩
  · intro bytes d early document late member hdecode hdocuments hmember hunasked
    exact feed_of_unasked hdecode hdocuments hmember hunasked

/-- The `InitializeOptions` of a request that says nothing. -/
private def noOptions : InitializeOptions := ⟨none, none, .off⟩

/-- The response that refuses the first request, which has the number zero. -/
private def refusal : Json :=
  .object [("error", .object [("code", .number (.integer 1)), ("message", .string "busy")]),
    ("id", .number (.integer 0)), ("jsonrpc", .string "2.0")]

/-- A response that grants the first request, with capabilities that say nothing. -/
private def grant : Json :=
  .object [("id", .number (.integer 0)), ("jsonrpc", .string "2.0"),
    ("result", .object [("capabilities", .object [])])]

/-- A request to initialize is refused and sent again, so two numbers are given out. -/
private def retried : List Operation :=
  [.sendInitialize noOptions, .feed (Frame.encode refusal), .sendInitialize noOptions]

/-- Both responses are decoded by `Frame.decode` as they are, because they are integral and their
members are in order. -/
private theorem decode_reply {m : Json} (hm : m ∈ [refusal, grant]) :
    Frame.decode Frame.defaultLimit (Frame.encode m) = .ok ⟨[m], (Frame.encode m).length⟩ := by
  have hplain : ∀ m ∈ [refusal, grant],
      m.isIntegral Json.depthLimit = true ∧ m.isOrdered = true := by decide +kernel
  have hsize : ∀ m ∈ [refusal, grant], (Frame.bodyOf m).length ≤ Frame.defaultLimit ∧
      (Frame.encode m).length ≤ Frame.sizeBound := by decide +kernel
  exact Frame.decode_encode_of_isOrdered (hplain m hm).1 (hplain m hm).2 (hsize m hm).1
    (hsize m hm).2

/-- `correlation_of_run` after `retried`: the request that was sent again awaits its response, and
`grant`, a response to the first one that comes then, is an error. -/
theorem late_response_unexpected :
    let c := (new.run retried).1
    (new.run retried).2.issued = [.integer 0, .integer 1] ∧
      new.answered retried = [.integer 0] ∧ c.pendingIds = [.integer 1] ∧
      (c.feed (Frame.encode grant)).2 = .error (.unexpectedResponse (.integer 0)) := by
  intro c
  have hvalid :
      ((new.sendInitialize noOptions).1.receive (Frame.encode refusal)).validate [refusal] =
        .ok [.initializeReply (.integer 0) (.error ⟨1, "busy", none⟩)] := rfl
  have hfeed := @feed_of_validate (new.sendInitialize noOptions).1 (Frame.encode refusal) _ _
    (decode_reply List.mem_cons_self) hvalid
  have hrun : (new.run retried).2.issued = [.integer 0, .integer 1] ∧ c.pendingIds = [.integer 1] ∧
      c.config = .default ∧ c.received = [] := by
    simp only [c, retried, run_cons, perform]
    rw [hfeed]
    exact ⟨rfl, rfl, rfl, rfl⟩
  obtain ⟨hissued, hpending, hconfig, hreceived⟩ := hrun
  obtain ⟨hids, -, hfault⟩ := correlation_of_run .default retried
  have hanswered : new.answered retried = [.integer 0] := by
    have hsplit : new.answered retried ++ [.integer 1] = [.integer 0] ++ [.integer 1] := by
      rw [← hpending]
      exact hids.trans (by rw [hpending]; exact hissued)
    exact List.append_cancel_right hsplit
  have hunasked : ∀ id, RequestId.ofMember (.number (.integer 0)) = .ok id →
      ¬ c.AwaitsAfter [] id := by
    rintro id hid ⟨hawaits, -⟩
    have hmem := (c.isPending_iff_mem id).mp hawaits
    rw [hpending] at hmem
    cases hid
    exact absurd (List.mem_singleton.mp hmem) (by decide)
  have hdecode : Frame.decode c.config.maxMessageSize (c.received ++ Frame.encode grant) =
      .ok ⟨[grant], (Frame.encode grant).length⟩ := by
    rw [hconfig, hreceived]
    exact decode_reply (List.mem_cons_of_mem _ List.mem_cons_self)
  exact ⟨hissued, hanswered, hpending,
    (hfault _ _ [] grant [] _ hdecode rfl rfl hunasked).2 _ [] rfl rfl⟩

end Client

end LspSession
