import LspSession.Proofs.Client.Batch

/-!
# `LspSession.Proofs.Client.InTurn`: a batch refines its documents taken in turn

A batch is validated as a whole against the client before it. The table of pending requests stays
as it is meanwhile, and a list of answered ids stands for what the responses of the batch will take
out of it. Only then is the batch applied, and every document finds the client that the ones before
it left.

`TakenInTurn` is the plain way to take documents. Each is a batch of its own: it is validated
against the client as it is and applied, and then the next one is looked at. `validate_inTurn` says
that the two ways agree. They accept the same batches and come to the same client and the same
events, and where they do not accept one, they meet the same error.

A document gives its event without regard to the documents around it. `eventOf` is the event that
it gives to a client when it comes alone, and the events of a batch are those of its documents
(`map_event_of_takenInTurn`).
-/

set_option autoImplicit false

namespace LspSession.Client

/-! ### Batches of one document -/

/-- A batch of one document is found valid if `validateOne` finds the document valid with no ids
answered. -/
theorem validate_singleton (c : Client) (document : Json) :
    c.validate [document] = (c.validateOne [] document).map fun incoming => [incoming] := by
  unfold validate validateFrom
  cases c.validateOne [] document <;> rfl

/-- A document is handled as a batch of its own: `validate` finds it valid, and `apply` carries it
out. -/
theorem handle_eq_ok_iff {c next : Client} {document : Json} {event : Event} :
    c.handle document = .ok (next, event) ↔
      ∃ incoming, c.validate [document] = .ok [incoming] ∧ c.apply incoming = (next, event) := by
  rw [validate_singleton]
  unfold handle
  cases c.validateOne [] document with
  | error e => exact iff_of_false nofun (fun ⟨_, h, _⟩ => nomatch h)
  | ok incoming =>
    constructor
    · intro h
      exact ⟨incoming, rfl, Except.ok.inj h⟩
    · rintro ⟨found, hfound, happly⟩
      cases hfound
      exact congrArg Except.ok happly

/-- A document is at fault for `handle` as a batch of its own is, with the same error. -/
theorem handle_eq_error_iff {c : Client} {document : Json} {e : ProtocolError} :
    c.handle document = .error e ↔ c.validate [document] = .error e := by
  rw [validate_singleton]
  unfold handle
  cases c.validateOne [] document with
  | error e' =>
    simp only [Except.map, Except.error.injEq]
  | ok incoming => exact iff_of_false nofun nofun

/-! ### Documents taken in turn -/

/-- Documents that are taken in turn. Each is validated by `validate` as a batch of its own by the
client that the ones before it leave, and applied to it. No client looks further than one document.
-/
inductive TakenInTurn : Client → List Json → Client → List Event → Prop where
  | nil (c : Client) : TakenInTurn c [] c []
  | cons {c last : Client} {document : Json} {documents : List Json} {incoming : Incoming}
      {events : List Event} (head : c.validate [document] = .ok [incoming])
      (tail : TakenInTurn (c.apply incoming).1 documents last events) :
    TakenInTurn c (document :: documents) last ((c.apply incoming).2 :: events)

/-- Documents are taken in turn exactly if `handleAll` handles them one after another, with the same
client at the end and the same events. -/
theorem takenInTurn_iff {c last : Client} {documents : List Json} {events : List Event} :
    TakenInTurn c documents last events ↔ c.handleAll documents = .ok (last, events) := by
  constructor
  · intro h
    induction h with
    | nil c => rfl
    | @cons c last document documents incoming events head tail ih =>
      have hhead : c.handle document = .ok ((c.apply incoming).1, (c.apply incoming).2) :=
        handle_eq_ok_iff.mpr ⟨incoming, head, rfl⟩
      rw [handleAll, hhead]
      simp only [ih]
  · intro h
    induction documents generalizing c events with
    | nil =>
      cases h
      exact .nil _
    | cons document rest ih =>
      unfold handleAll at h
      split at h
      · cases h
      · next next event hhead =>
        split at h
        · cases h
        · next last' later htail =>
          cases h
          -- A document that is handled is a batch of its own.
          obtain ⟨incoming, hvalid, happly⟩ := handle_eq_ok_iff.mp hhead
          obtain ⟨rfl, rfl⟩ := Prod.mk.inj happly
          exact .cons hvalid (ih htail)

/-- Documents are not handled by `handleAll` exactly if one of them is at fault when those before it
have been taken in turn, and the error is that of the first such document. -/
theorem handleAll_eq_error_iff {c : Client} {documents : List Json} {e : ProtocolError} :
    c.handleAll documents = .error e ↔
      ∃ early document late mid events, documents = early ++ document :: late ∧
        TakenInTurn c early mid events ∧ mid.validate [document] = .error e := by
  constructor
  · intro h
    induction documents generalizing c with
    | nil => cases h
    | cons document rest ih =>
      unfold handleAll at h
      split at h
      · next e' hhead =>
        cases h
        exact ⟨[], document, rest, c, [], rfl, .nil c, handle_eq_error_iff.mp hhead⟩
      · next next event hhead =>
        split at h
        · next e' htail =>
          cases h
          -- The fault lies behind the first document, which is one more taken before it.
          obtain ⟨early, bad, late, mid, events, rfl, hearly, hbad⟩ := ih htail
          obtain ⟨incoming, hvalid, happly⟩ := handle_eq_ok_iff.mp hhead
          obtain ⟨rfl, rfl⟩ := Prod.mk.inj happly
          exact ⟨document :: early, bad, late, mid, _, rfl, .cons hvalid hearly, hbad⟩
        · cases h
  · rintro ⟨early, document, late, mid, events, rfl, hearly, hbad⟩
    -- What stands behind the document at fault is never looked at.
    have hfront := takenInTurn_iff.mp hearly
    have hback : mid.handleAll (document :: late) = .error e := by
      unfold handleAll
      rw [handle_eq_error_iff.mpr hbad]
    rw [handleAll_append, hfront]
    simp only [hback]
    rfl

/-! ### The event of a document -/

/-- The event that a document gives to a client when it comes alone, or the error. -/
def eventOf (c : Client) (document : Json) : Except ProtocolError Event :=
  (c.handle document).map Prod.snd

/-- The event of a valid document does not depend on the client that `apply` applies it to. -/
theorem event_apply (c d : Client) (incoming : Incoming) :
    (c.apply incoming).2 = (d.apply incoming).2 := by
  cases incoming with
  | call event => rw [apply_call, apply_call]
  | initializeReply id outcome | shutdownReply id outcome => cases outcome <;> rfl

/-- The events of a batch are those of its valid documents, each applied to any client `d`. -/
theorem events_applyAll (c d : Client) (incoming : List Incoming) :
    (c.applyAll incoming).2 = incoming.map fun one => (d.apply one).2 := by
  induction incoming generalizing c with
  | nil => rfl
  | cons first rest ih =>
    show (c.apply first).2 :: ((c.apply first).1.applyAll rest).2 = _
    rw [ih, List.map_cons, event_apply c d first]

/-- A document that is found valid in a batch means the same when it comes alone: the `answered` ids
before it can only make it unexpected. -/
theorem validateOne_of_answered {c : Client} {answered : List RequestId} {document : Json}
    {incoming : Incoming} (h : c.validateOne answered document = .ok incoming) :
    c.validateOne [] document = .ok incoming := by
  unfold validateOne at h ⊢
  cases hmessage : Message.classify document with
  | error fault =>
    rw [hmessage] at h
    cases h
  | ok message =>
    rw [hmessage] at h
    cases message with
    | request r => exact h
    | notification n => exact h
    | response r =>
      -- What was answered before it can only make a response unexpected.
      simp only [understand, correlate] at h ⊢
      have hkind : c.answeredKind? answered r.id = none ∨
          c.answeredKind? answered r.id = c.answeredKind? [] r.id := by
        unfold answeredKind?
        cases answered.contains r.id with
        | true => exact Or.inl rfl
        | false => exact Or.inr rfl
      rcases hkind with hnone | hsame
      · rw [hnone] at h
        cases h
      · rw [hsame] at h
        exact h

/-- What a batch is found to mean by `validate` is what each of its documents means alone. -/
theorem map_validateOne {c : Client} {answered : List RequestId} {documents : List Json}
    {incoming : List Incoming} (h : c.validateFrom answered documents = .ok incoming) :
    documents.map (c.validateOne []) = incoming.map .ok := by
  induction documents generalizing answered incoming with
  | nil =>
    cases h
    rfl
  | cons document rest ih =>
    unfold validateFrom at h
    split at h
    · cases h
    · next first hfirst =>
      split at h
      · cases h
      · next more hmore =>
        cases h
        rw [List.map_cons, List.map_cons, validateOne_of_answered hfirst, ih hmore]

/-- Documents that are taken in turn give one event each by `eventOf`, in their order, and each
gives the event that it gives alone to the client before them all. -/
theorem map_event_of_takenInTurn {c last : Client} {documents : List Json} {events : List Event}
    (h : TakenInTurn c documents last events) : events.map .ok = documents.map c.eventOf := by
  have hbatch := takenInTurn_iff.mp h
  rw [handleAll_eq] at hbatch
  cases hvalid : c.validate documents with
  | error e =>
    rw [hvalid] at hbatch
    cases hbatch
  | ok incoming =>
    rw [hvalid] at hbatch
    have hevents : events = (c.applyAll incoming).2 :=
      congrArg Prod.snd (Except.ok.inj hbatch).symm
    have hone (document : Json) : c.eventOf document =
        (c.validateOne [] document).map fun one => (c.apply one).2 := by
      unfold eventOf handle
      cases c.validateOne [] document <;> rfl
    calc events.map .ok
        = (incoming.map .ok).map (Except.map fun one => (c.apply one).2) := by
          rw [hevents, events_applyAll c c, List.map_map, List.map_map]
          rfl
      _ = (documents.map (c.validateOne [])).map (Except.map fun one => (c.apply one).2) := by
          rw [map_validateOne hvalid]
      _ = documents.map c.eventOf := by
          rw [List.map_map]
          exact List.map_congr_left fun document _ => (hone document).symm

/-! ### Batches -/

/-- Validating a batch and then applying it is taking its documents in turn. A batch is found valid
exactly if its documents are all taken, and then applying it comes to the same client and the same
events. If a batch is not found valid, the error is the one at which the first document fails that
cannot be taken in its turn. The events of a batch are one for each of its documents, in their
order, and each is the event of its document. -/
theorem validate_inTurn (c : Client) (documents : List Json) :
    (∀ last events, TakenInTurn c documents last events ↔
        ∃ incoming, c.validate documents = .ok incoming ∧
          c.applyAll incoming = (last, events)) ∧
      (∀ e, c.validate documents = .error e ↔
        ∃ early document late mid events, documents = early ++ document :: late ∧
          TakenInTurn c early mid events ∧ mid.validate [document] = .error e) ∧
      ∀ incoming, c.validate documents = .ok incoming →
        (c.applyAll incoming).2.map .ok = documents.map c.eventOf := by
  -- Both directions compare the same two stages, validating and applying.
  have hturn (last : Client) (events : List Event) :
      TakenInTurn c documents last events ↔
        ∃ incoming, c.validate documents = .ok incoming ∧
          c.applyAll incoming = (last, events) := by
    rw [takenInTurn_iff, handleAll_eq]
    cases c.validate documents with
    | error e => exact iff_of_false nofun (fun ⟨_, h, _⟩ => nomatch h)
    | ok incoming =>
      constructor
      · intro h
        exact ⟨incoming, rfl, Except.ok.inj h⟩
      · rintro ⟨found, hfound, happly⟩
        cases hfound
        exact congrArg Except.ok happly
  refine ⟨hturn, fun e => ?_, fun incoming hvalid => ?_⟩
  · rw [← handleAll_eq_error_iff, handleAll_eq]
    cases c.validate documents with
    | error e' => simp only [Except.map, Except.error.injEq]
    | ok incoming => exact iff_of_false nofun nofun
  · exact map_event_of_takenInTurn ((hturn _ _).mpr ⟨incoming, hvalid, rfl⟩)

end LspSession.Client
