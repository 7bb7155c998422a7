import LspSession.Client.Receive

/-!
# `LspSession.Proofs.Client.Batch`: a batch is its documents one at a time

A batch of documents is validated as a whole against the client before it, and only then applied.
Between two documents the client changes, so it is not plain that the second would be found valid
had it come alone. `handle` takes one document through both stages, and `handleAll` does so for
one document after another. The theorems:

* `handleAll_eq`: handling documents one at a time is validating the batch and applying it, errors
  included. The ids answered earlier in the batch stand for the entries that applying the earlier
  responses takes out of the pending table (`answeredKind?_apply`).
* `handleAll_append`: a batch may be cut anywhere.
-/

set_option autoImplicit false

namespace LspSession

/-! ### The table of pending requests -/

/-- `erase` takes out the entry of `id` and no other: looking up `id` afterwards finds nothing, and
every `other` id has the entry that it had before. -/
theorem PendingTable.find?_erase (t : PendingTable) (id other : RequestId) :
    (t.erase id).find? other = if other = id then none else t.find? other := by
  induction t with
  | nil => simp [PendingTable.erase, PendingTable.find?]
  | cons entry rest ih =>
    obtain ⟨key, request⟩ := entry
    unfold PendingTable.erase PendingTable.find? at ih ⊢
    -- The entry in front is erased or kept, and it is looked up or passed over.
    by_cases hkey : key = id
    · subst hkey
      rw [List.filter_cons_of_neg (by simp), ih]
      by_cases hother : other = key
      · rw [if_pos hother, if_pos hother]
      · rw [if_neg hother, if_neg hother, List.lookup_cons, beq_false_of_ne hother]
    · rw [List.filter_cons_of_pos (by simpa using hkey), List.lookup_cons, List.lookup_cons, ih]
      by_cases hother : other = id
      · rw [if_pos hother, if_pos hother, hother, beq_false_of_ne (Ne.symm hkey)]
      · rw [if_neg hother, if_neg hother]

/-- The id of the request that a document answers. A call of the server answers none, and each of
the two replies carries the id of its request. -/
def Incoming.replyId? : Incoming → Option RequestId
  | .call _ => none
  | .initializeReply id _ | .shutdownReply id _ => some id

namespace Client

/-! ### One document -/

/-- The client that knows of one more request of the server, if there is one: `id` joins
`awaitingReply`, and nothing else changes. This is all that a call does to a client. -/
def track (c : Client) (id : Option RequestId) : Client :=
  { c with awaitingReply := id.elim c.awaitingReply c.awaitingReply.insert }

/-- `apply` on a call is `track` of the id that its event carries. A notification carries none and
leaves the client as it is. -/
theorem apply_call (c : Client) (event : Event) :
    c.apply (.call event) = (c.track event.requestId?, event) := by
  cases hid : event.requestId? with
  | none => simp only [apply, track, hid, Option.elim_none]
  | some id => simp only [apply, track, hid, Option.elim_some]

/-- `apply` takes the entry of the answered request out of `pending`, whether the reply is good or
bad. A call leaves the table alone. -/
theorem pending_apply (c : Client) (incoming : Incoming) :
    (c.apply incoming).1.pending = incoming.replyId?.elim c.pending c.pending.erase := by
  cases incoming with
  | call event => rw [apply_call]; rfl
  | initializeReply id outcome => cases outcome <;> rfl
  | shutdownReply id outcome => cases outcome <;> rfl

/-- The step that links validating to applying. Let `now` know the requests that `before` knew, less
those in `answered`. Then so it is once `now` has applied one more document and `answered` has its
id. -/
theorem answeredKind?_apply {before now : Client} {answered : List RequestId}
    (h : ∀ id, now.answeredKind? [] id = before.answeredKind? answered id) (incoming : Incoming)
    (id : RequestId) :
    (now.apply incoming).1.answeredKind? [] id =
      before.answeredKind? (Incoming.answered answered incoming) id := by
  have hid := h id
  unfold answeredKind? at hid ⊢
  rw [pending_apply]
  -- A call answers nothing. A reply puts its id among the answered ones on one side and erases its
  -- entry on the other, and `find?_erase` says that both come to the same.
  cases incoming with
  | call event => exact hid
  | initializeReply other outcome | shutdownReply other outcome =>
    simp only [Incoming.replyId?, Option.elim_some, PendingTable.find?_erase, Incoming.answered]
    by_cases hother : id = other
    · simp [hother]
    · simpa [hother] using hid

/-- What a document means depends on the client only through `answeredKind?`, the kinds of the
requests that it may answer. All other fields of two clients may differ. -/
theorem validateOne_congr {c d : Client} {answered answered' : List RequestId}
    (h : ∀ id, c.answeredKind? answered id = d.answeredKind? answered' id) (document : Json) :
    c.validateOne answered document = d.validateOne answered' document := by
  unfold validateOne
  cases Message.classify document with
  | error fault => rfl
  | ok message =>
    cases message with
    | request r => rfl
    | notification n => rfl
    -- Calls are received without a look at the client.
    | response r =>
      simp only [understand, correlate]
      rw [h]

/-- Handles one document: `validateOne` finds out what it means to the client as it is, with no ids
answered earlier, and `apply` carries it out. This is the reading of a batch without its two stages.
-/
def handle (c : Client) (document : Json) : Except ProtocolError (Client × Event) :=
  match c.validateOne [] document with
  | .error e => .error e
  | .ok incoming => .ok (c.apply incoming)

/-- Handles documents one after another with `handle`, up to the first that is at fault. Its error
is then the error of the whole, and the events before it are lost. -/
def handleAll (c : Client) : List Json → Except ProtocolError (Client × List Event)
  | [] => .ok (c, [])
  | document :: rest =>
    match c.handle document with
    | .error e => .error e
    | .ok (next, event) =>
      match next.handleAll rest with
      | .error e => .error e
      | .ok (last, events) => .ok (last, event :: events)

/-! ### Batches -/

/-- The rest of a batch, when some of it has been applied. The induction is on the rest. What
carries it is that `now`, the client so far, knows the requests that `before` knew, less those in
`answered`. -/
private theorem handleAll_eq_of_answered {before now : Client} {answered : List RequestId}
    (h : ∀ id, now.answeredKind? [] id = before.answeredKind? answered id)
    (documents : List Json) :
    now.handleAll documents = (before.validateFrom answered documents).map now.applyAll := by
  induction documents generalizing now answered with
  | nil => rfl
  | cons document rest ih =>
    unfold handleAll handle validateFrom
    rw [validateOne_congr h document]
    cases before.validateOne answered document with
    | error e => rfl
    | ok incoming =>
      simp only
      rw [ih (answeredKind?_apply h incoming)]
      cases before.validateFrom (Incoming.answered answered incoming) rest <;> rfl

/-- Validating a batch and then applying it is handling its documents one at a time, with the same
client, the same events and the same error. So all that follows speaks of `handleAll` alone. -/
theorem handleAll_eq (c : Client) (documents : List Json) :
    c.handleAll documents = (c.validate documents).map c.applyAll :=
  handleAll_eq_of_answered (fun _ => rfl) documents

/-- A batch may be cut anywhere: its `first` part is handled by itself, and the `second` by the
client that this leaves. The events stand one behind the other. -/
theorem handleAll_append (c : Client) (first second : List Json) :
    c.handleAll (first ++ second) =
      match c.handleAll first with
      | .error e => .error e
      | .ok (next, events) =>
        (next.handleAll second).map fun result => (result.1, events ++ result.2) := by
  induction first generalizing c with
  | nil =>
    simp only [List.nil_append, handleAll]
    cases c.handleAll second <;> rfl
  | cons document rest ih =>
    -- An error of the document or of either part is the error of both sides.
    simp only [List.cons_append, handleAll]
    cases c.handle document with
    | error e => rfl
    | ok result =>
      obtain ⟨next, event⟩ := result
      simp only [ih next]
      cases next.handleAll rest with
      | error e => rfl
      | ok result =>
        obtain ⟨last, events⟩ := result
        simp only
        cases last.handleAll second <;> rfl

/-- `handleAll_append` for success alone: a batch is handled exactly if its `first` part is, by
which the client becomes `mid`, and then the `second` is by `mid`. -/
theorem handleAll_append_eq_ok_iff {c last : Client} {first second : List Json}
    {events : List Event} :
    c.handleAll (first ++ second) = .ok (last, events) ↔
      ∃ mid early late, c.handleAll first = .ok (mid, early) ∧
        mid.handleAll second = .ok (last, late) ∧ early ++ late = events := by
  rw [handleAll_append]
  constructor
  · intro h
    -- The row comes to a value only if both of its parts do.
    split at h
    · cases h
    · next mid early hearly =>
      cases hlate : mid.handleAll second with
      | error e =>
        rw [hlate] at h
        cases h
      | ok result =>
        obtain ⟨last', late⟩ := result
        rw [hlate] at h
        cases h
        exact ⟨mid, early, late, hearly, hlate, rfl⟩
  · rintro ⟨mid, early, late, hearly, hlate, rfl⟩
    rw [hearly]
    simp only [hlate]
    rfl

end Client

end LspSession
