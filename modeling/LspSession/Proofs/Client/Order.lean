import LspSession.Proofs.Client.InTurn
import LspSession.Proofs.Client.Pending
import LspSession.Proofs.Message.IdSet
import Mathlib.Data.List.OfFn
import Mathlib.Data.Fintype.Perm

/-!
# `LspSession.Proofs.Client.Order`: the order of a batch makes no difference

A batch mixes calls of the server with responses to the client. The responses move the session, take
entries out of the table of pending requests and may put a notification into the bytes for the
server. The calls add ids to those that await a reply. Ids of either side are numbers or strings,
and one id may stand on both sides at once.

`order_of_run` says that none of this depends on the order in which a batch brings its documents,
and that what the responses do is the same as if no call had stood between them. The argument goes
by neighbours. Two documents that are found valid one after the other may change places
(`validateOne_swap`): one of them is a call, since one request at most awaits a response, and a call
and another document do not touch the same part of the client (`apply_comm`).
-/

set_option autoImplicit false

namespace LspSession.Client

/-! ### Two documents -/

/-- What is no response means the same to every client, whatever ids were answered before it:
`understand` looks at the client only for responses. -/
theorem validateOne_of_response?_none {document : Json} (h : Message.response? document = none)
    (c d : Client) (answered answered' : List RequestId) :
    c.validateOne answered document = d.validateOne answered' document := by
  unfold Message.response? at h
  unfold validateOne
  cases hmessage : Message.classify document with
  | error fault => rfl
  | ok message =>
    cases message with
    | request r => rfl
    | notification n => rfl
    -- The one message that depends on the client is excluded.
    | response r =>
      rw [hmessage] at h
      cases h

/-- A document that is carried out makes no difference to what `validateOne` finds of another one,
unless both are responses. A second response may find its request answered. -/
theorem validateOne_apply {c : Client} {document other : Json} {incoming : Incoming}
    (hvalid : c.validateOne [] document = .ok incoming)
    (hcall : Message.response? document = none ∨ Message.response? other = none) :
    (c.apply incoming).1.validateOne [] other = c.validateOne [] other := by
  rcases hcall with hcall | hcall
  · -- Only a response changes the table, and by the table alone it is decided what one means.
    have hnone : incoming.replyId? = none := by
      rw [replyId?_of_validateOne hvalid, hcall, Option.map_none]
    refine validateOne_congr (fun id => ?_) other
    unfold answeredKind?
    rw [pending_apply, hnone, Option.elim_none]
  · exact validateOne_of_response?_none hcall _ _ _ _

/-- What is applied and an id that is taken note of by `track` come to the same client in either
order, since ids are kept in a set. -/
theorem apply_track (c : Client) (id : Option RequestId) (incoming : Incoming) :
    ((c.track id).apply incoming).1 = (c.apply incoming).1.track id := by
  cases incoming with
  | call event =>
    rw [apply_call, apply_call]
    -- Both are ids that are inserted into one set.
    cases id with
    | none => rfl
    | some first =>
      cases hsecond : event.requestId? with
      | none => rfl
      | some second =>
        unfold track
        simp only [Option.elim_some]
        rw [IdSet.insert_comm]
  | initializeReply id outcome | shutdownReply id outcome => cases outcome <;> rfl

/-- A call and another document come to the same client, whichever `apply` takes first. The call may
be either of the two. -/
theorem apply_comm (c : Client) {first second : Incoming}
    (h : first.replyId? = none ∨ second.replyId? = none) :
    ((c.apply first).1.apply second).1 = ((c.apply second).1.apply first).1 := by
  -- Said once for a call in front; the other case is the same equation read backwards.
  have hcall (call other : Incoming) (hnone : call.replyId? = none) :
      ((c.apply call).1.apply other).1 = ((c.apply other).1.apply call).1 := by
    cases call with
    | call event => rw [apply_call, apply_call, apply_track]
    | initializeReply | shutdownReply => cases hnone
  rcases h with h | h
  · exact hcall first second h
  · exact (hcall second first h).symm

/-- Two documents that `validateOne` finds valid one after the other are found valid in the other
order as well. They mean the same, and they lead to the same client. -/
theorem validateOne_swap {c : Client} (hc : c.Consistent) {document other : Json}
    {first second : Incoming} (hfirst : c.validateOne [] document = .ok first)
    (hsecond : (c.apply first).1.validateOne [] other = .ok second) :
    c.validateOne [] other = .ok second ∧ (c.apply second).1.validateOne [] document = .ok first ∧
      ((c.apply second).1.apply first).1 = ((c.apply first).1.apply second).1 := by
  -- One request awaits a response at most, so one of the two is no response.
  have hone : Message.response? document = none ∨ Message.response? other = none := by
    have haccepts : Accepts c [document, other] [first, second] :=
      .cons hfirst (.cons hsecond (.nil _))
    have hcount := haccepts.length_responses_le hc
    rw [filterMap_cons_eq_append, filterMap_cons_eq_append] at hcount
    cases hresponse : Message.response? document with
    | none => exact Or.inl rfl
    | some r =>
      cases hresponse' : Message.response? other with
      | none => exact Or.inr rfl
      | some r' => simp [hresponse, hresponse'] at hcount
  have hother : c.validateOne [] other = .ok second := by
    rw [← validateOne_apply hfirst hone]
    exact hsecond
  have hcall : second.replyId? = none ∨ first.replyId? = none := by
    rw [replyId?_of_validateOne hfirst, replyId?_of_validateOne hother, Option.map_eq_none_iff,
      Option.map_eq_none_iff]
    exact hone.symm
  refine ⟨hother, ?_, apply_comm c hcall⟩
  rw [validateOne_apply hother hone.symm]
  exact hfirst

/-! ### Batches in another order -/

/-- A batch that is accepted in one order is accepted in every order, and leads to the same client.
The induction is on the permutation, and what carries it is that neighbours may change places
(`validateOne_swap`). -/
theorem Accepts.perm {c : Client} {documents permuted : List Json} {incoming : List Incoming}
    (h : Accepts c documents incoming) (hc : c.Consistent) (hperm : documents.Perm permuted) :
    ∃ incoming', Accepts c permuted incoming' ∧
      (c.applyAll incoming').1 = (c.applyAll incoming).1 := by
  induction hperm generalizing c incoming with
  | nil => exact ⟨incoming, h, rfl⟩
  -- The front document stays, and the rest is a batch for the client that it leaves.
  | cons document _ ih =>
    cases h with
    | @cons _ _ _ first rest head tail =>
      obtain ⟨rest', htail, hsame⟩ := ih tail ((handled_of_validateOne head).follows hc).1
      refine ⟨first :: rest', .cons head htail, ?_⟩
      rw [applyAll_cons, applyAll_cons]
      exact hsame
  | swap document other rest =>
    cases h with
    | @cons _ _ _ first _ head tail =>
      cases tail with
      | @cons _ _ _ second more head' tail' =>
        obtain ⟨hother, hdocument, hsame⟩ := validateOne_swap hc head head'
        refine ⟨second :: first :: more, .cons hother (.cons hdocument ?_), ?_⟩
        · rw [hsame]
          exact tail'
        · rw [applyAll_cons, applyAll_cons, applyAll_cons, applyAll_cons, hsame]
  | trans _ _ ih ih' =>
    obtain ⟨between, hbetween, hsame⟩ := ih h hc
    obtain ⟨incoming', hincoming', hsame'⟩ := ih' hbetween hc
    exact ⟨incoming', hincoming', hsame'.trans hsame⟩

/-- What a batch that a client `Accepts` is found to mean is what its documents mean alone. -/
theorem Accepts.map_validateOne {c : Client} {documents : List Json} {incoming : List Incoming}
    (h : Accepts c documents incoming) :
    documents.map (c.validateOne []) = incoming.map .ok :=
  Client.map_validateOne (accepts_iff_validate.mp h)

/-- What an accepted batch is found to mean is decided by what each document means alone, so the
meanings of documents in a row are in the same row. -/
theorem Accepts.eq_ofFn {c : Client} {n : Nat} {documents : Fin n → Json}
    {meanings : Fin n → Incoming} {incoming : List Incoming}
    (h : Accepts c (List.ofFn documents) incoming)
    (hmeanings : ∀ i, c.validateOne [] (documents i) = .ok (meanings i)) :
    incoming = List.ofFn meanings := by
  have hok : incoming.map (.ok : _ → Except ProtocolError _) = (List.ofFn meanings).map .ok := by
    rw [← h.map_validateOne, List.map_ofFn, List.map_ofFn]
    exact congrArg List.ofFn (funext hmeanings)
  exact List.map_injective_iff.mpr (fun _ _ => Except.ok.inj) hok

/-- Documents in another order are a permutation of them. `Equiv.Perm` tells which document stands
where, and `List.Perm` only that they are the same. -/
theorem perm_ofFn_get (documents : List Json) (σ : Equiv.Perm (Fin documents.length)) :
    documents.Perm (List.ofFn (documents.get ∘ σ)) := by
  have hperm := Equiv.Perm.ofFn_comp_perm σ documents.get
  rw [List.ofFn_get] at hperm
  exact hperm.symm

/-- A batch that is accepted is accepted in every order `σ`, and the meanings are in that order
then, and lead to the same client. -/
theorem Accepts.permute {c : Client} {documents : List Json} {incoming : List Incoming}
    (h : Accepts c documents incoming) (hc : c.Consistent)
    (σ : Equiv.Perm (Fin documents.length)) :
    ∃ meanings : Fin documents.length → Incoming, incoming = List.ofFn meanings ∧
      Accepts c (List.ofFn (documents.get ∘ σ)) (List.ofFn (meanings ∘ σ)) ∧
      (c.applyAll (List.ofFn (meanings ∘ σ))).1 = (c.applyAll incoming).1 := by
  have hmeaning (i : Fin documents.length) :
      ∃ meaning, c.validateOne [] (documents.get i) = .ok meaning := by
    have hmem : c.validateOne [] (documents.get i) ∈ incoming.map .ok := by
      rw [← h.map_validateOne]
      exact List.mem_map_of_mem (List.get_mem documents i)
    obtain ⟨meaning, -, hmeaning⟩ := List.mem_map.mp hmem
    exact ⟨meaning, hmeaning.symm⟩
  choose meanings hmeanings using hmeaning
  -- A document means the same wherever it stands, so the meanings change places with the documents.
  obtain ⟨permuted, hpermuted, hsame⟩ := h.perm hc (perm_ofFn_get documents σ)
  cases hpermuted.eq_ofFn fun i => hmeanings (σ i)
  refine ⟨meanings, ?_, hpermuted, hsame⟩
  rw [← List.ofFn_get documents] at h
  exact h.eq_ofFn hmeanings

/-! ### Batches without their calls -/

/-- The client with other ids in `awaitingReply`, and everything else as it is. -/
def withAwaiting (c : Client) (ids : IdSet) : Client := { c with awaitingReply := ids }

/-- The ids that await a reply make no difference to what `validateOne` finds of a document. -/
theorem validateOne_withAwaiting (c : Client) (ids : IdSet) (answered : List RequestId)
    (document : Json) :
    (c.withAwaiting ids).validateOne answered document = c.validateOne answered document :=
  validateOne_congr (fun _ => rfl) document

/-- A call changes nothing but the ids that await a reply, so with the same ids the client is as
before. -/
theorem apply_call_withAwaiting (c : Client) (event : Event) (ids : IdSet) :
    (c.apply (.call event)).1.withAwaiting ids = c.withAwaiting ids := by
  rw [apply_call]
  rfl

/-- A response makes no difference to the ids that await a reply, nor they to it. -/
theorem apply_reply_withAwaiting (c : Client) {incoming : Incoming} {id : RequestId}
    (h : incoming.replyId? = some id) (ids : IdSet) :
    ((c.withAwaiting ids).apply incoming).1 = (c.apply incoming).1.withAwaiting ids := by
  cases incoming with
  | call event => cases h
  | initializeReply id outcome | shutdownReply id outcome => cases outcome <;> rfl

/-- A batch that is accepted is accepted without its calls, whichever `ids` await a reply, and leads
to the same client but for these. -/
theorem Accepts.without_calls {c : Client} {documents : List Json} {incoming : List Incoming}
    (h : Accepts c documents incoming) (ids : IdSet) :
    ∃ replies,
      Accepts (c.withAwaiting ids) (documents.filter fun d => (Message.call? d).isNone) replies ∧
        ((c.withAwaiting ids).applyAll replies).1 = (c.applyAll incoming).1.withAwaiting ids := by
  induction h with
  | nil c => exact ⟨[], .nil _, rfl⟩
  | @cons c document rest first more head tail ih =>
    obtain ⟨replies, hreplies, hsame⟩ := ih
    rw [applyAll_cons]
    rcases validateOne_cases head with ⟨_, _, _, event, hcall, -, rfl⟩ |
      ⟨response, _, hresponse, -, hid, -⟩
    · -- A call is left out, and the rest goes on from where it was.
      rw [apply_call_withAwaiting] at hreplies hsame
      rw [List.filter_cons_of_neg (by rw [hcall]; exact Bool.false_ne_true)]
      exact ⟨replies, hreplies, hsame⟩
    · -- A response stays, and finds the client as it was but for the ids.
      have hcall : Message.call? document = none := by
        cases hcall : Message.call? document with
        | none => rfl
        | some call =>
          rw [Message.response?_of_call? hcall] at hresponse
          cases hresponse
      rw [List.filter_cons_of_pos (by rw [hcall]; rfl)]
      rw [← apply_reply_withAwaiting c hid] at hreplies hsame
      refine ⟨first :: replies, .cons ?_ hreplies, ?_⟩
      · rw [validateOne_withAwaiting]
        exact head
      · rw [applyAll_cons]
        exact hsame

/-! ### Runs -/

/-- The order of a batch makes no difference, whatever a client has been through before in a `run`.
If a batch is found valid in one order, it is in every order. Applied in any order it leads to the
same client, and gives the same events, each in the place of its document. Without its calls it is
found valid too, and leads to the same client, except that the ids of the calls are not added to
those that await a reply. -/
theorem order_of_run (config : Config) (ops : List Operation) (documents : List Json) :
    let c := ((ofConfig config).run ops).1
    (∀ σ : Equiv.Perm (Fin documents.length),
        let permuted := List.ofFn (documents.get ∘ σ)
        ((∃ incoming, c.validate documents = .ok incoming) ↔
            ∃ incoming, c.validate permuted = .ok incoming) ∧
          ∀ incoming, c.validate documents = .ok incoming →
            ∃ incoming' last, ∃ events : Fin documents.length → Event,
              c.validate permuted = .ok incoming' ∧
                c.applyAll incoming = (last, List.ofFn events) ∧
                c.applyAll incoming' = (last, List.ofFn (events ∘ σ))) ∧
      ∀ incoming, c.validate documents = .ok incoming → ∃ replies,
        c.validate (documents.filter fun d => (Message.call? d).isNone) = .ok replies ∧
          (c.applyAll replies).1 = (c.applyAll incoming).1.withAwaiting c.awaitingReply := by
  intro c
  -- Only consistency is used of what the client has been through.
  have hc : c.Consistent := (run_follows (consistent_ofConfig config) ops).1
  refine ⟨fun σ => ⟨⟨?_, ?_⟩, fun incoming hvalid => ?_⟩, fun incoming hvalid => ?_⟩
  · rintro ⟨incoming, hvalid⟩
    obtain ⟨meanings, -, haccepts, -⟩ := (accepts_iff_validate.mpr hvalid).permute hc σ
    exact ⟨_, accepts_iff_validate.mp haccepts⟩
  · rintro ⟨incoming, hvalid⟩
    obtain ⟨incoming', haccepts, -⟩ :=
      (accepts_iff_validate.mpr hvalid).perm hc (perm_ofFn_get documents σ).symm
    exact ⟨incoming', accepts_iff_validate.mp haccepts⟩
  · obtain ⟨meanings, rfl, haccepts, hsame⟩ := (accepts_iff_validate.mpr hvalid).permute hc σ
    refine ⟨_, _, fun i => (c.apply (meanings i)).2, accepts_iff_validate.mp haccepts,
      Prod.ext rfl ?_, Prod.ext hsame ?_⟩
    · rw [events_applyAll c c, List.map_ofFn]
      rfl
    · rw [events_applyAll c c, List.map_ofFn]
      rfl
  · obtain ⟨replies, hreplies, hsame⟩ :=
      (accepts_iff_validate.mpr hvalid).without_calls c.awaitingReply
    exact ⟨replies, accepts_iff_validate.mp hreplies, hsame⟩

/-- A request of the server that is not understood, under zero, the number of the client's first
request (`Client.nextId`). -/
private def inquiry : Json :=
  .object [("id", .number (.integer 0)), ("jsonrpc", .string "2.0"),
    ("method", .string "workspace/configuration")]

/-- The event of `inquiry`, which is `unsupported`. -/
private def inquired : Event :=
  .unsupported (some (.integer 0)) "workspace/configuration" none

/-- The response to the client's first request, which grants it. Its id is that of `inquiry`. -/
private def acceptance : Json :=
  .object [("id", .number (.integer 0)), ("jsonrpc", .string "2.0"),
    ("result", .object [("capabilities", .object [])])]

/-- A request of the server and the response to the client's request of the same number may come in
either order, or the response by itself. -/
theorem order_of_inquiry :
    let c := (new.run [.sendInitialize ⟨none, none, .off⟩]).1
    ∃ incoming incoming' last, c.validate [inquiry, acceptance] = .ok incoming ∧
      c.validate [acceptance, inquiry] = .ok incoming' ∧
      c.applyAll incoming = (last, [inquired, .initialized (.object [])]) ∧
      c.applyAll incoming' = (last, [.initialized (.object []), inquired]) ∧
      last.state = .normal ∧ last.isAwaitingReply (.integer 0) = true ∧
      ∃ replies, c.validate [acceptance] = .ok replies ∧
        (c.applyAll replies).1 = last.withAwaiting .empty := by
  intro c
  have hvalid : c.validate [inquiry, acceptance] =
      .ok [.call inquired, .initializeReply (.integer 0) (.ok (.object []))] := rfl
  obtain ⟨hpermute, hreplies⟩ :=
    order_of_run .default [.sendInitialize ⟨none, none, .off⟩] [inquiry, acceptance]
  obtain ⟨incoming', last, events, hvalid', happly, happly'⟩ :=
    (hpermute (Equiv.swap 0 1)).2 _ hvalid
  have hlast : last = (c.applyAll _).1 := (congrArg Prod.fst happly).symm
  have hlist : [events 0, events 1] = [inquired, .initialized (.object [])] :=
    (congrArg Prod.snd happly).symm
  have hlist' : [events 1, events 0] = [.initialized (.object []), inquired] :=
    congrArg List.reverse hlist
  obtain ⟨replies, hresponse, hsame⟩ := hreplies _ hvalid
  refine ⟨_, incoming', last, hvalid, hvalid', ?_, ?_, ?_, ?_, replies, hresponse, ?_⟩
  · rw [← hlist]
    exact happly
  · rw [← hlist']
    exact happly'
  · rw [hlast]
    rfl
  · rw [hlast]
    rfl
  · rw [hlast]
    exact hsame

end LspSession.Client
