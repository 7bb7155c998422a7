import LspSession.Proofs.Frame.Extension
import LspSession.Proofs.Frame.Header

/-!
# `LspSession.Proofs.Frame.Grammar`: decoding accepts frames and nothing else

`decode` walks over a buffer frame by frame. `MadeOf` says without a walk that bytes are frames one
after another, each a header, a separator and a body that carries a document (`Parts.Carries`). The
two are the same: `decode_iff_madeOf` says which documents a buffer decodes to, that the frames of a
buffer are the only ones it is made of, and that only no bytes are no frames.

The first separator of a buffer is that of its first frame, because a separator before it would
stand within the frame's header and separator (`separatorAt_append_iff`). So what one step splits
off is the frame in front (`split_eq_ok_iff`).
-/

set_option autoImplicit false

namespace LspSession.Frame

/-! ### One frame -/

/-- Whether a separator stands within the front of a buffer is up to the front. It is
`SeparatorAt.append` and `SeparatorAt.of_append` in one, for places that leave the separator its
four bytes. -/
theorem separatorAt_append_iff {front : Bytes} {place : Nat} (more : Bytes)
    (hfits : place + separator.length ≤ front.length) :
    SeparatorAt (front ++ more) place ↔ SeparatorAt front place :=
  ⟨fun h => h.of_append hfits, fun h => h.append more⟩

/-- What stands before and after the first separator: `splitSeparator?` gives a header and the bytes
behind exactly if these make up the buffer, and no separator starts within the header, not even one
that ends in the separator behind it. -/
theorem splitSeparator?_eq_some_iff {buffer header after : Bytes} :
    splitSeparator? buffer = some (header, after) ↔
      buffer = header ++ separator ++ after ∧
        ∀ m < header.length, ¬ SeparatorAt (header ++ separator) m := by
  -- Four bytes that start within the header end with the separator behind it at the latest.
  have hwithin (m : Nat) (hm : m < header.length) :
      SeparatorAt (header ++ separator ++ after) m ↔ SeparatorAt (header ++ separator) m :=
    separatorAt_append_iff after (by rw [List.length_append]; omega)
  constructor
  · intro h
    have hbuffer := eq_of_splitSeparator? h
    refine ⟨hbuffer, fun m hm => ?_⟩
    simp only [splitSeparator?, Option.map_eq_some_iff, Prod.mk.injEq] at h
    obtain ⟨place, hplace, rfl, -⟩ := h
    rw [← hwithin m hm, ← hbuffer]
    rw [List.length_take] at hm
    exact (separatorPlace?_eq_some_iff.mp hplace).2 m (by omega)
  · rintro ⟨rfl, hfirst⟩
    have hat : SeparatorAt (header ++ separator ++ after) header.length := by
      unfold SeparatorAt
      rw [List.append_assoc, List.drop_left]
      exact List.prefix_append _ _
    have hplace : separatorPlace? (header ++ separator ++ after) = some header.length :=
      separatorPlace?_eq_some_iff.mpr ⟨hat, fun m hm => (hwithin m hm).not.mpr (hfirst m hm)⟩
    have hdrop :
        (header ++ separator ++ after).drop (header.length + separator.length) = after := by
      rw [← List.length_append, List.drop_left]
    rw [splitSeparator?, hplace, Option.map_some, hdrop, List.append_assoc, List.take_left]

/-- What `split` takes off a buffer is a header up to the first separator and a body of the length
that it declares, if the limit and memory admit it. What follows, `s.rest`, has no say in this. -/
theorem split_eq_ok_iff_of_size {limit : Nat} {buffer : Bytes} {s : Split} :
    split limit buffer = .ok s ↔
      buffer = s.header ++ separator ++ s.body ++ s.rest ∧
        (∀ m < s.header.length, ¬ SeparatorAt (s.header ++ separator) m) ∧
        Declares s.header s.body.length ∧ s.body.length ≤ limit ∧ s.size ≤ sizeBound := by
  constructor
  · intro h
    refine ⟨eq_of_split h, ?_⟩
    unfold split at h
    split at h
    · cases h
    · next header after hsep =>
      obtain ⟨-, hfirst⟩ := splitSeparator?_eq_some_iff.mp hsep
      split at h
      · cases h
      · next length hlength =>
        -- Of the three outcomes of the body only the last one is a frame.
        rw [splitBody_eq] at h
        split at h
        · cases h
        · next hadmitted =>
          split at h
          · next hlong =>
            cases h
            have hlength' : (after.take length).length = length := List.length_take_of_le hlong
            refine ⟨hfirst, ?_, ?_, ?_⟩
            · rw [hlength']
              exact declaredLength_eq_ok_iff.mp hlength
            · rw [hlength']
              omega
            · show header.length + separator.length + (after.take length).length ≤ sizeBound
              omega
          · cases h
  · rintro ⟨hbuffer, hfirst, hdeclares, hadmitted, hfits⟩
    have hsep : splitSeparator? buffer = some (s.header, s.body ++ s.rest) :=
      splitSeparator?_eq_some_iff.mpr ⟨by rw [hbuffer, List.append_assoc], hfirst⟩
    rw [Split.size] at hfits
    simp only [split, hsep, declaredLength_eq_ok_iff.mpr hdeclares]
    rw [splitBody_eq, if_neg (by omega), if_pos (by rw [List.length_append]; omega),
      List.take_left, List.drop_left]

/-- What `split` takes off a buffer that fits into memory is a header up to the first separator and
a body of the length that it declares. The check of `sizeBound` never refuses here, so it is gone.
-/
theorem split_eq_ok_iff {limit : Nat} {buffer : Bytes} {s : Split}
    (hfits : buffer.length ≤ sizeBound) :
    split limit buffer = .ok s ↔
      buffer = s.header ++ separator ++ s.body ++ s.rest ∧
        (∀ m < s.header.length, ¬ SeparatorAt (s.header ++ separator) m) ∧
        Declares s.header s.body.length ∧ s.body.length ≤ limit := by
  rw [split_eq_ok_iff_of_size]
  constructor
  · rintro ⟨hbuffer, hfirst, hdeclares, hadmitted, -⟩
    exact ⟨hbuffer, hfirst, hdeclares, hadmitted⟩
  · rintro ⟨hbuffer, hfirst, hdeclares, hadmitted⟩
    have hlen := congrArg List.length hbuffer
    simp only [List.length_append] at hlen
    exact ⟨hbuffer, hfirst, hdeclares, hadmitted, by rw [Split.size]; omega⟩

/-- A frame that is split off is split off whatever follows it. The bytes of the frame alone decide
all that `split_eq_ok_iff_of_size` asks for. -/
theorem split_of_rest {limit : Nat} {buffer : Bytes} {s : Split} (h : split limit buffer = .ok s)
    (rest : Bytes) :
    split limit (s.header ++ separator ++ s.body ++ rest) = .ok { s with rest := rest } := by
  obtain ⟨-, hframe⟩ := split_eq_ok_iff_of_size.mp h
  exact split_eq_ok_iff_of_size.mpr ⟨rfl, hframe⟩

/-- Where a good frame stands in front of bytes that decode up to a place, the buffer decodes up to
that place. With this a fault behind several frames is followed back to the front of the buffer, one
frame at a time. -/
theorem exists_front_of_split {limit : Nat} {buffer whole bytes : Bytes} {s : Split}
    {document : Json} {d : Decoded} (hs : split limit buffer = .ok s)
    (hdocument : Json.ofBytes s.body = .ok document) (hrest : s.rest = whole ++ bytes)
    (hwhole : decode limit whole = .ok d) :
    ∃ front d, buffer = front ++ bytes ∧ decode limit front = .ok d := by
  refine ⟨s.header ++ separator ++ s.body ++ whole, Decoded.append ⟨[document], s.size⟩ d, ?_, ?_⟩
  · rw [eq_of_split hs, hrest, List.append_assoc _ whole]
  · rw [decode_of_split (split_of_rest hs whole)]
    simp only [hdocument, hwhole]
    rfl

/-- The bytes `header` are the header of a frame with a body of `length` bytes: the first separator
is the one behind them, and they declare the length. Limit and memory have not been asked yet. -/
structure Announces (header : Bytes) (length : Nat) : Prop where
  first : ∀ m < header.length, ¬ SeparatorAt (header ++ separator) m
  declares : Declares header length

/-- Behind a header that is whole, `split` looks for a body of the length that it announces and for
nothing else. So its outcome is that of `splitBody`, under any limit. -/
theorem Announces.split_eq {header : Bytes} {length : Nat} (h : Announces header length)
    (limit : Nat) (after : Bytes) :
    split limit (header ++ separator ++ after) = splitBody limit header after length := by
  rw [split, splitSeparator?_eq_some_iff.mpr ⟨rfl, h.first⟩]
  simp only [declaredLength_eq_ok_iff.mpr h.declares]

/-- Bytes start with a header that is whole, or `split` fails on them with one error whatever the
limit. So the limit has a say only behind a header that announces a length. -/
theorem announces_or_split_eq (buffer : Bytes) :
    (∃ header length after, buffer = header ++ separator ++ after ∧ Announces header length) ∨
      ∃ e, ∀ limit, split limit buffer = .error e := by
  cases hsep : splitSeparator? buffer with
  | none => exact Or.inr ⟨_, fun limit => by rw [split, hsep]⟩
  | some cut =>
    obtain ⟨header, after⟩ := cut
    obtain ⟨hbuffer, hfirst⟩ := splitSeparator?_eq_some_iff.mp hsep
    cases hlength : declaredLength header with
    | error e => exact Or.inr ⟨e, fun limit => by simp only [split, hsep, hlength]⟩
    | ok length =>
      exact Or.inl ⟨header, length, after, hbuffer, hfirst,
        declaredLength_eq_ok_iff.mp hlength⟩

/-- The two parts of a frame, the bytes before its separator and those behind it. Nothing is
required of them here: `Parts.Carries` says when they make a good frame. -/
@[ext]
structure Parts where
  header : Bytes
  body : Bytes

/-- The bytes of a frame, its `header` and its `body` with the separator between them. A frame is
never empty, since the separator alone has four bytes. -/
def Parts.bytes (p : Parts) : Bytes := p.header ++ separator ++ p.body

/-- Bytes are frames one after another, each a header and as many bytes as it announces. Unlike in
`MadeOf`, nothing is said of how long the bodies are or what they hold. -/
structure FramesOf (buffer : Bytes) (parts : List Parts) : Prop where
  joined : buffer = parts.flatMap Parts.bytes
  announced : ∀ p ∈ parts, Announces p.header p.body.length

/-- A frame in front of frames makes one frame more. This is the step by which
`exists_parts_of_decode` takes a buffer apart. -/
theorem FramesOf.cons {rest : Bytes} {p : Parts} {parts : List Parts} (h : FramesOf rest parts)
    (hp : Announces p.header p.body.length) : FramesOf (p.bytes ++ rest) (p :: parts) := by
  obtain ⟨rfl, hparts⟩ := h
  exact ⟨List.flatMap_cons.symm, List.forall_mem_cons.mpr ⟨hp, hparts⟩⟩

/-- A frame carries a document under `limit`: its first separator is the one behind the header, the
header declares the number of bytes of the body, the limit admits them, and they are read as the
document. -/
structure Parts.Carries (limit : Nat) (p : Parts) (document : Json) : Prop where
  first : ∀ m < p.header.length, ¬ SeparatorAt p.bytes m
  declares : Declares p.header p.body.length
  admitted : p.body.length ≤ limit
  parsed : Json.ofBytes p.body = .ok document

/-- A frame that carries a document is split off what it is in front of. The bound `hfits` is of the
whole buffer, which is how a machine would know it. -/
theorem Parts.Carries.split {limit : Nat} {p : Parts} {document : Json}
    (h : p.Carries limit document) {rest : Bytes} (hfits : (p.bytes ++ rest).length ≤ sizeBound) :
    Frame.split limit (p.bytes ++ rest) = .ok ⟨p.header, p.body, rest⟩ := by
  refine (split_eq_ok_iff hfits).mpr ⟨rfl, fun m hm hat => ?_, h.declares, h.admitted⟩
  -- A separator that starts in the header would stand in the frame's bytes as well.
  exact h.first m hm (hat.append p.body)

/-- What `split` takes off a buffer carries the document that its body is read as. It is the
converse of `Parts.Carries.split`. -/
theorem carries_of_split {limit : Nat} {buffer : Bytes} {s : Split} {document : Json}
    (hfits : buffer.length ≤ sizeBound) (h : split limit buffer = .ok s)
    (hdocument : Json.ofBytes s.body = .ok document) :
    (Parts.mk s.header s.body).Carries limit document := by
  obtain ⟨-, hfirst, hdeclares, hadmitted⟩ := (split_eq_ok_iff hfits).mp h
  refine ⟨fun m hm hat => hfirst m hm ?_, hdeclares, hadmitted, hdocument⟩
  exact hat.of_append (by rw [List.length_append]; exact Nat.add_le_add_right (Nat.le_of_lt hm) _)

/-! ### All frames of a buffer -/

/-- Bytes are frames one after another, `parts`, each of which carries one of the `documents`. This
is the grammar of a stream, said without a walk over it. -/
structure MadeOf (limit : Nat) (buffer : Bytes) (parts : List Parts) (documents : List Json) :
    Prop where
  joined : buffer = parts.flatMap Parts.bytes
  carried : List.Forall₂ (Parts.Carries limit) parts documents

/-- Frames are decoded to the documents that they carry, in their order, and every byte is used. The
bound on the buffer is needed once for each frame, and the rest of a buffer is never longer than it.
-/
theorem MadeOf.decode {limit : Nat} {buffer : Bytes} {parts : List Parts} {documents : List Json}
    (h : MadeOf limit buffer parts documents) (hfits : buffer.length ≤ sizeBound) :
    Frame.decode limit buffer = .ok ⟨documents, buffer.length⟩ := by
  obtain ⟨rfl, hcarried⟩ := h
  -- The induction is on the frames, each of which carries its document.
  induction hcarried with
  | nil => exact decode_nil limit
  | @cons p document parts documents hp _ ih =>
    rw [List.flatMap_cons] at hfits ⊢
    have hrest : (parts.flatMap Parts.bytes).length ≤ sizeBound := by
      rw [List.length_append] at hfits
      omega
    rw [decode_of_split (hp.split hfits)]
    simp only [hp.parsed, ih hrest, Except.map, Decoded.append, List.cons_append, List.nil_append]
    rw [Split.size, List.length_append, Parts.bytes, List.length_append, List.length_append]

/-- A buffer that is decoded is made of frames that carry the documents it was decoded to. Together
with `MadeOf.decode` this says that `decode` accepts the grammar and nothing else. -/
theorem exists_madeOf_of_decode {limit : Nat} {buffer : Bytes} {d : Decoded}
    (hfits : buffer.length ≤ sizeBound) (h : decode limit buffer = .ok d) :
    ∃ parts, MadeOf limit buffer parts d.documents := by
  -- Only the end of the buffer and a frame with good frames behind it are no errors.
  fun_induction Frame.decode limit buffer generalizing d with
  | case1 =>
    cases h
    exact ⟨[], rfl, .nil⟩
  | case2 => cases h
  | case3 => cases h
  | case4 => cases h
  | case5 buffer hne s hs document hdocument rest hrest ih =>
    cases h
    -- What is left is shorter, so it fits into memory too and the hypothesis of the induction
    -- applies.
    have hshort := length_rest_lt hs
    obtain ⟨parts, hparts, hcarried⟩ := ih (by omega) hrest
    refine ⟨⟨s.header, s.body⟩ :: parts, ?_, .cons (carries_of_split hfits hs hdocument) hcarried⟩
    rw [List.flatMap_cons, ← hparts]
    exact eq_of_split hs

/-- However long a buffer is that `decode` accepts, it is frames with bodies that the limit admits,
as many as documents. Unlike `exists_madeOf_of_decode` this asks for no bound on the buffer. -/
theorem exists_parts_of_decode {limit : Nat} {buffer : Bytes} {d : Decoded}
    (h : decode limit buffer = .ok d) :
    ∃ parts, FramesOf buffer parts ∧ parts.length = d.documents.length ∧
      ∀ p ∈ parts, p.body.length ≤ limit := by
  fun_induction Frame.decode limit buffer generalizing d with
  | case1 =>
    cases h
    exact ⟨[], ⟨rfl, fun p hp => absurd hp List.not_mem_nil⟩, rfl,
      fun p hp => absurd hp List.not_mem_nil⟩
  | case2 => cases h
  | case3 => cases h
  | case4 => cases h
  | case5 buffer hne s hs document hdocument rest hrest ih =>
    cases h
    obtain ⟨hbuffer, hfirst, hdeclares, hadmitted, -⟩ := split_eq_ok_iff_of_size.mp hs
    have hannounces : Announces s.header s.body.length := ⟨hfirst, hdeclares⟩
    obtain ⟨parts, hparts, hcount, hbodies⟩ := ih hrest
    refine ⟨⟨s.header, s.body⟩ :: parts, ?_, congrArg (· + 1) hcount, ?_⟩
    · rw [hbuffer]
      exact hparts.cons (p := ⟨s.header, s.body⟩) hannounces
    · exact List.forall_mem_cons.mpr ⟨hadmitted, hbodies⟩

/-- The frames that a buffer is made of are the only ones: each is found again by `split` in front
of what is left, so two ways to take the buffer apart agree frame by frame. -/
theorem MadeOf.unique {limit : Nat} {buffer : Bytes} {parts parts' : List Parts}
    {documents documents' : List Json} (h : MadeOf limit buffer parts documents)
    (h' : MadeOf limit buffer parts' documents') (hfits : buffer.length ≤ sizeBound) :
    parts = parts' := by
  obtain ⟨rfl, hcarried⟩ := h
  obtain ⟨hjoined, hcarried'⟩ := h'
  -- A frame is never empty, so neither buffer ends before the other.
  have hempty (p : Parts) (rest : Bytes) : p.bytes ++ rest ≠ [] := by
    simp [Parts.bytes, separator]
  induction hcarried generalizing parts' documents' with
  | nil =>
    cases hcarried' with
    | nil => rfl
    | cons _ _ => exact absurd hjoined.symm (hempty _ _)
  | @cons p document parts documents hp _ ih =>
    cases hcarried' with
    | nil => exact absurd hjoined (hempty _ _)
    | @cons p' document' parts' documents' hp' hcarried' =>
      -- Both frames are what is split off the buffer.
      rw [List.flatMap_cons] at hfits
      have hsplit := hp.split hfits
      rw [← List.flatMap_cons, hjoined, List.flatMap_cons,
        hp'.split (by rw [← List.flatMap_cons, ← hjoined]; exact hfits)] at hsplit
      injection hsplit with hsplit
      injection hsplit with hheader hbody hrest
      have hsame : p' = p := Parts.ext hheader hbody
      have hfits' : (parts.flatMap Parts.bytes).length ≤ sizeBound := by
        rw [List.length_append] at hfits
        omega
      rw [hsame, ih hfits' hrest.symm hcarried']

/-- A buffer that fits into memory is decoded by `decode` exactly if it is frames one after another,
to the documents that they carry and with every byte used. There is one way to take it apart into
frames, and only no bytes give no documents. -/
theorem decode_iff_madeOf {limit : Nat} {buffer : Bytes} (hfits : buffer.length ≤ sizeBound) :
    (∀ d, decode limit buffer = .ok d ↔
      d.consumed = buffer.length ∧ ∃ parts, MadeOf limit buffer parts d.documents) ∧
      (∀ parts parts' documents documents', MadeOf limit buffer parts documents →
        MadeOf limit buffer parts' documents' → parts = parts' ∧ documents = documents') ∧
      ((∃ consumed, decode limit buffer = .ok ⟨[], consumed⟩) ↔ buffer = []) := by
  refine ⟨fun d => ⟨fun h => ?_, ?_⟩, fun parts parts' documents documents' h h' => ?_, ?_, ?_⟩
  · exact ⟨consumed_of_decode h, exists_madeOf_of_decode hfits h⟩
  · rintro ⟨hconsumed, parts, hparts⟩
    rw [hparts.decode hfits, ← hconsumed]
  · have hsame := (h.decode hfits).symm.trans (h'.decode hfits)
    injection hsame with hsame
    injection hsame with hdocuments
    exact ⟨h.unique h' hfits, hdocuments⟩
  · rintro ⟨consumed, h⟩
    exact eq_nil_of_documents_nil h rfl
  · rintro rfl
    exact ⟨0, decode_nil limit⟩

/-- Two frames that use what the grammar leaves open: a line of another name, letters of either
case, blanks, a plus sign, zeros in front, and a length that a later line replaces. -/
private def twoFrames : Bytes :=
  Utf8.encode ("content-LENGTH\u2003: +2 \r\nX-Note:a:b\r\n\r\n[]" ++
    "Content-Length: 9\r\n Content-Length:004\r\n\r\nnull")

/-- Both frames of `twoFrames` are decoded, and there is one way to take them apart. This is
`decode_iff_madeOf` at bytes that no writer would produce but a reader must accept. -/
theorem madeOf_twoFrames :
    twoFrames.length ≤ sizeBound ∧
      decode 4 twoFrames = .ok ⟨[.array [], .null], twoFrames.length⟩ ∧
      ∃ parts, MadeOf 4 twoFrames parts [.array [], .null] ∧
        ∀ parts' documents', MadeOf 4 twoFrames parts' documents' → parts = parts' := by
  have hfits : twoFrames.length ≤ sizeBound := by decide +kernel
  have hdecode : decode 4 twoFrames = .ok ⟨[.array [], .null], twoFrames.length⟩ := by
    decide +kernel
  obtain ⟨hiff, hunique, -⟩ := @decode_iff_madeOf 4 twoFrames hfits
  obtain ⟨-, parts, hparts⟩ := (hiff _).mp hdecode
  exact ⟨hfits, hdecode, parts, hparts, fun _ _ h => (hunique _ _ _ _ hparts h).1⟩

end LspSession.Frame
