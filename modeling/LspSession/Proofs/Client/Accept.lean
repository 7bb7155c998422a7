import LspSession.Proofs.Client.Receive

/-!
# `LspSession.Proofs.Client.Accept`: a batch as the clients inside it see it

A batch is validated against the client before it and applied document by document, so between two
documents there are clients that no caller ever sees. `Accepts` is a batch as these clients see it:
each document is found valid by the client that the documents before it leave. Every batch that is
found valid is such a row (`accepts_of_validate`), and what holds of a client when it is reached may
then be used of the clients inside a batch.

`validateOne_cases` says what a document that is found valid is: a call, or a response to a request
that awaits one. `find?_applyAll` says what a batch leaves of the table of pending requests.
-/

set_option autoImplicit false

namespace LspSession

/-- The response that a document is, if `classify` says that it is one. -/
def Message.response? (document : Json) : Option Response :=
  match classify document with
  | .ok (.response r) => some r
  | _ => none

/-- The call that a document is: the id if it is a request, the method and the parameters. -/
def Message.call? (document : Json) : Option (Option RequestId × String × Option Json) :=
  match classify document with
  | .ok (.request r) => some (some r.id, r.method, r.params)
  | .ok (.notification n) => some (none, n.method, n.params)
  | _ => none

/-- A document that is a call is no response, since `classify` makes one message of it. -/
theorem Message.response?_of_call? {document : Json}
    {call : Option RequestId × String × Option Json} (h : call? document = some call) :
    response? document = none := by
  unfold call? at h
  unfold response?
  split at h
  · next r hr => rw [hr]
  · next n hn => rw [hn]
  · cases h

/-- The kind of the request that a document answers. A call answers none. -/
def Incoming.replyKind? : Incoming → Option ClientRequest
  | .call _ => none
  | .initializeReply _ _ => some .initialization
  | .shutdownReply _ _ => some .shutdown

namespace Client

/-! ### What a document means -/

/-- What `interpret` makes of a response carries the id of the response and the `kind` of request
that it answers. -/
theorem interpret_eq_ok {kind : ClientRequest} {response : Response} {incoming : Incoming}
    (h : interpret kind response = .ok incoming) :
    incoming.replyId? = some response.id ∧ incoming.replyKind? = some kind := by
  obtain ⟨id, payload⟩ := response
  cases kind with
  | initialization =>
    cases payload with
    | error failure =>
      cases h
      exact ⟨rfl, rfl⟩
    | ok result =>
      simp only [interpret] at h
      cases hcapabilities : Malformed.capabilitiesOf result with
      | error fault =>
        rw [hcapabilities] at h
        cases h
      | ok capabilities =>
        rw [hcapabilities] at h
        cases h
        exact ⟨rfl, rfl⟩
  | shutdown =>
    cases payload with
    | error failure =>
      cases h
      exact ⟨rfl, rfl⟩
    | ok result =>
      cases h
      exact ⟨rfl, rfl⟩

/-- The inversion of `validateOne`: a document that is found valid is a call that `Event.ofCall`
understands, or it is a response to a request that awaits one, and then its meaning carries the id
and the kind of that request. -/
theorem validateOne_cases {c : Client} {answered : List RequestId} {document : Json}
    {incoming : Incoming} (h : c.validateOne answered document = .ok incoming) :
    (∃ id method params event, Message.call? document = some (id, method, params) ∧
        Event.ofCall id method params = .ok event ∧ incoming = .call event) ∨
      ∃ response kind, Message.response? document = some response ∧
        c.answeredKind? answered response.id = some kind ∧
        incoming.replyId? = some response.id ∧ incoming.replyKind? = some kind := by
  -- Requests and notifications are received in one way.
  have hcall {id : Option RequestId} {method : String} {params : Option Json}
      (hreceived : receiveCall id method params = .ok incoming) :
      ∃ event, Event.ofCall id method params = .ok event ∧ incoming = .call event := by
    unfold receiveCall at hreceived
    split at hreceived
    · next event hevent =>
      cases hreceived
      exact ⟨event, hevent, rfl⟩
    · cases hreceived
  unfold validateOne at h
  unfold Message.call? Message.response?
  cases hmessage : Message.classify document with
  | error fault =>
    rw [hmessage] at h
    cases h
  | ok message =>
    rw [hmessage] at h
    cases message with
    | request r =>
      obtain ⟨event, hevent, hincoming⟩ := hcall h
      exact Or.inl ⟨some r.id, r.method, r.params, event, rfl, hevent, hincoming⟩
    | notification n =>
      obtain ⟨event, hevent, hincoming⟩ := hcall h
      exact Or.inl ⟨none, n.method, n.params, event, rfl, hevent, hincoming⟩
    | response r =>
      simp only [understand, correlate] at h
      cases hkind : c.answeredKind? answered r.id with
      | none =>
        rw [hkind] at h
        cases h
      | some kind =>
        rw [hkind] at h
        cases hmeaning : interpret kind r with
        | error fault =>
          simp only [hmeaning] at h
          cases h
        | ok meaning =>
          simp only [hmeaning] at h
          cases h
          obtain ⟨hid, hkind'⟩ := interpret_eq_ok hmeaning
          exact Or.inr ⟨r, kind, rfl, hkind, hid, hkind'⟩

/-- A document that is found valid answers the request whose id it carries as a response. So what is
answered can be read off the document. -/
theorem replyId?_of_validateOne {c : Client} {answered : List RequestId} {document : Json}
    {incoming : Incoming} (h : c.validateOne answered document = .ok incoming) :
    incoming.replyId? = (Message.response? document).map (·.id) := by
  rcases validateOne_cases h with ⟨_, _, _, event, hcall, -, rfl⟩ |
    ⟨response, kind, hsome, -, hid, -⟩
  · rw [Message.response?_of_call? hcall]
    rfl
  · rw [hsome, hid]
    rfl

/-- A response that is found valid by itself finds a request of its kind pending under its id. -/
theorem find?_of_validateOne {c : Client} {document : Json} {incoming : Incoming}
    {id : RequestId} {kind : ClientRequest} (h : c.validateOne [] document = .ok incoming)
    (hid : incoming.replyId? = some id) (hkind : incoming.replyKind? = some kind) :
    ∃ request, c.pending.find? id = some ⟨kind, request⟩ := by
  rcases validateOne_cases h with ⟨_, _, _, event, -, -, rfl⟩ |
    ⟨response, kind', -, hfound, hid', hkind'⟩
  · cases hid
  · rw [hid] at hid'
    rw [hkind] at hkind'
    -- The response names its request by the id and by the kind, so both are those that were found.
    cases hid'
    cases hkind'
    simp only [answeredKind?, List.contains_nil, Bool.false_eq_true, if_false,
      Option.map_eq_some_iff] at hfound
    obtain ⟨⟨kind', request⟩, hpending, rfl⟩ := hfound
    exact ⟨request, hpending⟩

/-! ### Batches that are accepted -/

/-- Documents that are found valid one after another, each by the client that the documents before
it leave, and what they are found to mean. No ids are answered earlier, because that client has them
out of its table. -/
inductive Accepts : Client → List Json → List Incoming → Prop where
  | nil (c : Client) : Accepts c [] []
  | cons {c : Client} {document : Json} {documents : List Json} {incoming : Incoming}
      {rest : List Incoming} (head : c.validateOne [] document = .ok incoming)
      (tail : Accepts (c.apply incoming).1 documents rest) :
      Accepts c (document :: documents) (incoming :: rest)

/-- A rest of a batch is accepted by `now`, which has applied the front, exactly if it is found
valid in its place by `before`. The induction is on the rest, and as for `handleAll_eq` the ids
answered so far stand for what the front took out of the table. -/
private theorem accepts_iff_of_answered {before now : Client} {answered : List RequestId}
    (h : ∀ id, now.answeredKind? [] id = before.answeredKind? answered id)
    {documents : List Json} {incoming : List Incoming} :
    Accepts now documents incoming ↔ before.validateFrom answered documents = .ok incoming := by
  induction documents generalizing now answered incoming with
  | nil =>
    constructor
    · intro haccepts
      cases haccepts
      rfl
    · intro hvalid
      cases hvalid
      exact .nil _
  | cons document rest ih =>
    constructor
    · intro haccepts
      cases haccepts with
      | cons head tail =>
        rw [validateOne_congr h document] at head
        unfold validateFrom
        simp only [head, (ih (answeredKind?_apply h _)).mp tail]
    · intro hvalid
      unfold validateFrom at hvalid
      split at hvalid
      · cases hvalid
      · next first hfirst =>
        split at hvalid
        · cases hvalid
        · next more hmore =>
          cases hvalid
          refine .cons ?_ ((ih (answeredKind?_apply h first)).mpr hmore)
          rw [validateOne_congr h document]
          exact hfirst

/-- A batch is accepted document by document exactly if `validate` finds it valid as a whole. -/
theorem accepts_iff_validate {c : Client} {documents : List Json} {incoming : List Incoming} :
    Accepts c documents incoming ↔ c.validate documents = .ok incoming :=
  accepts_iff_of_answered fun _ => rfl

/-- A batch that is found valid is accepted document by document, which is the direction of
`accepts_iff_validate` that invariants need. -/
theorem accepts_of_validate {c : Client} {documents : List Json} {incoming : List Incoming}
    (h : c.validate documents = .ok incoming) : Accepts c documents incoming :=
  accepts_iff_validate.mpr h

/-- One document more in front of a batch: `apply` for that document, then `applyAll` for the
others. -/
theorem applyAll_cons (c : Client) (incoming : Incoming) (rest : List Incoming) :
    c.applyAll (incoming :: rest) =
      (((c.apply incoming).1.applyAll rest).1,
        (c.apply incoming).2 :: ((c.apply incoming).1.applyAll rest).2) := rfl

/-- One document of a batch that is accepted is found valid by the client that the `early` ones
before it leave. -/
theorem Accepts.exists_validateOne {c : Client} {documents : List Json}
    {early late : List Incoming} {incoming : Incoming}
    (h : Accepts c documents (early ++ incoming :: late)) :
    ∃ document, (c.applyAll early).1.validateOne [] document = .ok incoming := by
  induction early generalizing c documents with
  | nil =>
    cases h with
    | cons head tail => exact ⟨_, head⟩
  | cons first early ih =>
    cases h with
    | cons head tail => exact ih tail

/-- The front of a batch that is accepted is accepted, by the same client. -/
theorem Accepts.of_append {c : Client} {documents : List Json} {early late : List Incoming}
    (h : Accepts c documents (early ++ late)) : ∃ front, Accepts c front early := by
  induction early generalizing c documents with
  | nil => exact ⟨[], .nil c⟩
  | cons first early ih =>
    cases h with
    | cons head tail =>
      obtain ⟨front, hfront⟩ := ih tail
      exact ⟨_, .cons head hfront⟩

/-- What a batch is found to answer are the ids of the responses among its documents, in their
order. -/
theorem Accepts.replyIds_eq {c : Client} {documents : List Json} {incoming : List Incoming}
    (h : Accepts c documents incoming) :
    incoming.filterMap Incoming.replyId? = (documents.filterMap Message.response?).map (·.id) := by
  induction h with
  | nil c => rfl
  | cons head tail ih =>
    rw [filterMap_cons_eq_append, filterMap_cons_eq_append, ih, replyId?_of_validateOne head,
      List.map_append]
    cases Message.response? _ <;> rfl

/-- Applying a document that is found valid handles it, so it is one of the five in `Handled`. -/
theorem handled_of_validateOne {c : Client} {document : Json} {incoming : Incoming}
    (h : c.validateOne [] document = .ok incoming) :
    Handled c (c.apply incoming).1 (c.apply incoming).2 := by
  have hhandle : c.handle document = .ok ((c.apply incoming).1, (c.apply incoming).2) := by
    unfold handle
    rw [h]
  exact handled_of_handle hhandle

/-- Applying a batch that is accepted handles its documents one after another. -/
theorem Accepts.handledAll {c : Client} {documents : List Json} {incoming : List Incoming}
    (h : Accepts c documents incoming) :
    HandledAll c (c.applyAll incoming).1 (c.applyAll incoming).2 := by
  induction h with
  | nil c => exact .nil c
  | cons head tail ih =>
    rw [applyAll_cons]
    exact .cons (handled_of_validateOne head) ih

/-- A batch that is applied takes the entries of the requests that it answers out of the table, and
leaves all others. -/
theorem find?_applyAll (c : Client) (incoming : List Incoming) (id : RequestId) :
    (c.applyAll incoming).1.pending.find? id =
      if id ∈ incoming.filterMap Incoming.replyId? then none else c.pending.find? id := by
  induction incoming generalizing c with
  | nil => rfl
  | cons first rest ih =>
    rw [applyAll_cons, ih, pending_apply, filterMap_cons_eq_append]
    cases hfirst : first.replyId? with
    | none => rfl
    | some other =>
      simp only [Option.elim_some, PendingTable.find?_erase, Option.toList_some,
        List.singleton_append, List.mem_cons]
      -- The id is answered by the first document, or by one of the rest, or by none.
      by_cases hother : id = other
      · simp [hother]
      · simp [hother]

/-! ### Bytes -/

/-- Bytes that have come make no difference to what documents mean, because `validate` does not look
at them. -/
theorem validate_receive (c : Client) (bytes : Bytes) (documents : List Json) :
    (c.receive bytes).validate documents = c.discard.validate documents :=
  (validate_discard (c.receive bytes) documents).symm

/-- A batch that decodes and is found valid is applied by the client that keeps nothing: `feed`
succeeds, and gives its events. -/
theorem feed_of_validate {c : Client} {bytes : Bytes} {d : Frame.Decoded}
    {incoming : List Incoming}
    (hdecode : Frame.decode c.config.maxMessageSize (c.received ++ bytes) = .ok d)
    (hvalid : (c.receive bytes).validate d.documents = .ok incoming) :
    c.feed bytes = ((c.discard.applyAll incoming).1, .ok (c.discard.applyAll incoming).2) := by
  rw [validate_receive] at hvalid
  rw [feed_of_decode hdecode, handleAll_eq, hvalid]
  rfl

end Client

end LspSession
