import LspSession.Proofs.Frame.RoundTrip
import LspSession.Proofs.Json.Ordered
import LspSession.Proofs.Message.Grammar

/-!
# `LspSession.Proofs.Message.Framed`: messages in frames

A message travels as the frame of its document, and the other side decodes the frame before it looks
at the document. `Message.Arrives` says of a message that it is read both ways, from its document
and from its frame. It holds of every message that carries no `null` where that counts as nothing
(`arrives_of_received`).

What comes out of a frame is in order (`Frame.isOrdered_of_decode`), and so is what a request in it
carries.
-/

set_option autoImplicit false

namespace LspSession

/-- Documents that `decode` gives are in order: each was read from a body, and
`Json.isOrdered_of_ofBytes` says so of whatever is read. -/
theorem Frame.isOrdered_of_decode {limit : Nat} {buffer : Bytes} {d : Decoded}
    (h : decode limit buffer = .ok d) : ∀ document ∈ d.documents, document.isOrdered = true := by
  fun_induction decode limit buffer generalizing d with
  | case1 =>
    cases h
    exact List.forall_mem_nil _
  | case2 | case3 | case4 => cases h
  | case5 buffer hne s hs document hdocument d' hd' ih =>
    cases h
    exact List.forall_mem_cons.mpr ⟨Json.isOrdered_of_ofBytes hdocument, ih hd'⟩

/-- A member of an object in order is in order. The object has each name once, so the value found by
name is one of those listed. -/
theorem Json.isOrdered_of_member? {members : List (String × Json)} {name : String} {value : Json}
    (h : (Json.object members).isOrdered = true) (hfound : member? name members = some value) :
    value.isOrdered = true := by
  obtain ⟨hascending, hvalues⟩ := isOrdered_object_iff.mp h
  exact hvalues (name, value) ((member?_eq_some_iff hascending.nodup).mp hfound)

namespace Message

/-- The parameters of a request that is read from a document in order are in order, since `classify`
takes them from the document as they are. -/
theorem isOrdered_params_of_classify {document : Json} {r : Request}
    (h : classify document = .ok (.request r)) (hordered : document.isOrdered = true) :
    ∀ j ∈ r.params, j.isOrdered = true := by
  obtain ⟨members, rfl, hspells⟩ := classify_eq_ok_iff.mp h
  cases hspells
  intro j hj
  exact Json.isOrdered_of_member? hordered (Json.present_eq_some_iff.mp hj).1

/-- A message is read from its document by `classify`. So it is from the document that its frame is
decoded to, if the frame can be decoded: its numbers are integers, no more containers are open at
once than may be, the documents that it carries are in order and the frame is not too long. -/
structure Arrives (m : Message) : Prop where
  shown : classify m.wire = .ok m
  decoded (limit : Nat) (hintegral : m.wire.isIntegral Json.depthLimit = true)
      (hordered : ∀ j ∈ m.documents, j.isOrdered = true)
      (hlimit : (Frame.bodyOf m.wire).length ≤ limit)
      (hfits : (Frame.encode m.wire).length ≤ Frame.sizeBound) :
    ∃ document, Frame.decode limit (Frame.encode m.wire) =
        .ok ⟨[document], (Frame.encode m.wire).length⟩ ∧
      classify document = .ok m

/-- A message arrives if nothing of it counts as absent. Whatever else is lost between writing and
reading shows in `received`. -/
theorem arrives_of_received {m : Message} (h : m.received = m) : m.Arrives := by
  refine ⟨?_, fun limit hintegral hordered hlimit hfits => ?_⟩
  · obtain ⟨members, hmembers, hshown⟩ := shownBy_wire m
    rw [hmembers, hshown.classify_eq, h]
  · obtain ⟨members, hmembers, hshown⟩ := shownBy_sorted_wire hordered
    -- The frame gives the document with its members sorted, and that one shows the message too.
    refine ⟨_, Frame.decode_encode_of_read (Json.ofBytes_render hintegral) hlimit hfits, ?_⟩
    rw [hmembers, hshown.classify_eq, h]

/-- A request arrives, unless its parameters are `null`. It then arrives as one without parameters,
which is another message. -/
theorem arrives_request {r : Request} (h : r.params ≠ some .null) : (request r).Arrives := by
  obtain ⟨id, method, params⟩ := r
  refine arrives_of_received ?_
  cases params with
  | none => rfl
  | some j =>
    have hpresent : Json.present (some j) = some j :=
      Json.present_eq_some_iff.mpr ⟨rfl, fun hnull => h (congrArg some hnull)⟩
    rw [received, hpresent]

end Message

end LspSession
