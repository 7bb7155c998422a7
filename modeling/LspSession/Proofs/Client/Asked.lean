import LspSession.Proofs.Client.Input
import LspSession.Proofs.Client.Recorded

/-!
# `LspSession.Proofs.Client.Asked`: a client responds to what it was asked

The bytes that a client has for the server are the frames of messages. `Queues` says of these
messages that every response among them goes to a request of the server, and it says so by the bytes
that came from the server alone (`Asked`): some front of them is whole frames, and one of the
documents in these is a request with the id. What carries it is that every id that awaits a reply is
that of a document among those accounted for (`AccountsFor`).

Every call but the drain adds its messages to those that are queued (`Queues.perform`), as long as
the bytes that are fed are not at fault. The drain takes them all (`Queues.drained`).
-/

set_option autoImplicit false

namespace LspSession

/-- The bytes that the server has sent hold a request with the id: some front of them is `whole`
frames, and a document in these is such a request. -/
def Asked (limit : Nat) (input : Bytes) (id : RequestId) : Prop :=
  ∃ whole rest d, input = whole ++ rest ∧ Frame.decode limit whole = .ok d ∧
    ∃ document ∈ d.documents, ∃ r, Message.classify document = .ok (.request r) ∧ r.id = id

/-- What has been asked stays `Asked`, whatever the server sends later. -/
theorem Asked.append {limit : Nat} {input : Bytes} {id : RequestId} (h : Asked limit input id)
    (more : Bytes) : Asked limit (input ++ more) id := by
  obtain ⟨whole, rest, d, rfl, hd⟩ := h
  exact ⟨whole, rest ++ more, d, List.append_assoc _ _ _, hd⟩

namespace Client

/-- The ids of the requests whose events a call gives back are those recorded for its documents
(`Message.recordedId?`). -/
theorem requestIds_perform (c : Client) (op : Operation) :
    (c.perform op).2.requestIds = (op.documents c).filterMap Message.recordedId? :=
  requestIds_of_map_eventOf (map_events_perform c op)

/-- The messages that a client has for the server, after what the server has sent: which bytes they
are, that each response among them was asked for, and that the next one will be. -/
structure Queues (c : Client) (input : Bytes) (waiting : List Message) : Prop where
  outgoing_eq : c.outgoing = Message.frames waiting
  /-- Each response among them was asked for. -/
  asked : ∀ response, .response response ∈ waiting →
    Asked c.config.maxMessageSize input response.id
  /-- The bytes are accounted for, and the ids that await a reply are those of documents in them. -/
  accounted : ∃ documents, c.AccountsFor input documents ∧
    ∀ id, c.isAwaitingReply id = true → id ∈ documents.filterMap Message.recordedId?

namespace Queues

/-- The client of `Client.ofConfig` has nothing for the server, and has been sent nothing. -/
theorem ofConfig (config : Config) : (Client.ofConfig config).Queues [] [] where
  outgoing_eq := rfl
  asked := fun _ hmem => absurd hmem List.not_mem_nil
  accounted := ⟨[], accountsFor_nil rfl, fun _ hid => absurd hid Bool.false_ne_true⟩

/-- An id that awaits a reply was asked for, by a document among those that `AccountsFor` counts. -/
theorem asked_of_awaiting {c : Client} {input : Bytes} {waiting : List Message}
    (h : c.Queues input waiting) {id : RequestId} (hid : c.isAwaitingReply id = true) :
    Asked c.config.maxMessageSize input id := by
  obtain ⟨documents, ⟨whole, hinput, hwhole⟩, hrecorded⟩ := h.accounted
  obtain ⟨document, hmem, r, hr, -, hrid⟩ := Message.mem_recordedIds_iff.mp (hrecorded id hid)
  exact ⟨whole, c.received, _, hinput, hwhole, document, hmem, r, hr, hrid⟩

/-- A call that drains nothing and feeds no fault adds its `Operation.messages` to those that are
queued, and its bytes to those that came. -/
theorem perform {c : Client} {input : Bytes} {waiting : List Message} (h : c.Queues input waiting)
    {op : Operation} (hdrain : op ≠ .drain) (hfault : (c.perform op).2.isFault = false) :
    (c.perform op).1.Queues (input ++ op.fedBytes)
      (waiting ++ op.messages c.config (c.perform op).2) := by
  have hperformed := performed_perform c op
  have hconfig := hperformed.config_eq
  refine ⟨?_, fun response hmem => ?_, ?_⟩
  -- Only a drain takes bytes away.
  · have htaken : (c.perform op).2.taken = [] := by
      cases op with
      | drain => exact absurd rfl hdrain
      | _ => rfl
    have hbytes := hperformed.drained_append
    rw [htaken, List.nil_append, h.outgoing_eq] at hbytes
    rw [hbytes, Message.frames_append]
  · rw [hconfig]
    rcases List.mem_append.mp hmem with hold | hnew
    · exact (h.asked response hold).append _
    · -- A response that is sent now replies to an id that awaited a reply.
      have hid : response.id ∈
          (op.messages c.config (c.perform op).2).filterMap Message.responseId? :=
        List.mem_filterMap.mpr ⟨_, hnew, rfl⟩
      rw [hperformed.responseIds_eq, Option.mem_toList] at hid
      exact (h.asked_of_awaiting (hperformed.of_repliedId? hid).1).append _
  · obtain ⟨documents, haccounts, hrecorded⟩ := h.accounted
    -- The ids of the call are those of its documents, which the account has gained.
    refine ⟨_, haccounts.perform op hfault, fun id hid => ?_⟩
    rw [List.filterMap_append, List.mem_append, ← requestIds_perform]
    rcases (hperformed.isAwaitingReply_iff id).mp hid with hnew | ⟨hold, -⟩
    · exact Or.inr hnew
    · exact Or.inl (hrecorded id hold)

/-- Once it is drained by `drainOutgoing`, a client has nothing for the server. What the server has
sent stays as it is. -/
theorem drained {c : Client} {input : Bytes} {waiting : List Message}
    (h : c.Queues input waiting) : Queues { c with outgoing := [] } input [] where
  outgoing_eq := rfl
  asked := fun _ hmem => absurd hmem List.not_mem_nil
  accounted := h.accounted

end Queues

end Client

end LspSession
