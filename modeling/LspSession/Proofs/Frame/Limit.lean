import LspSession.Proofs.Frame.Unfinished

/-!
# `LspSession.Proofs.Frame.Limit`: the limit refuses long bodies and does nothing else

`decode` is given the number of bytes that a body may have. Three checks meet in it: the limit, the
largest number that memory can count, and the number of bytes that are there. They come in this
order, so a frame that declares too much is refused before one byte of its body is waited for.

`decode_of_limit_le` compares two limits. Under the smaller one a buffer decodes as under the larger
one, up to the first frame that declares more than the smaller admits, and that frame is the error
(`Refused`). So a buffer decodes under the smaller limit exactly if it decodes under the larger one
and none of its bodies is too long. `FramesOf` says without a limit what the bodies of a buffer are.

Both rest on the case analysis of one frame (`announces_or_split_eq`): its header is whole, and then
the limit and memory have their say, or the outcome is the same under every limit.
-/

set_option autoImplicit false

namespace LspSession.Frame

/-! ### Frames that are refused -/

/-- Bytes start with a whole header that declares `size`, and `limit` or memory does not admit it.
How much of the body is there does not matter, not even whether there is any. -/
def Refused (limit : Nat) (bytes : Bytes) (size : Nat) : Prop :=
  ∃ header after, bytes = header ++ separator ++ after ∧ Announces header size ∧
    (limit < size ∨ sizeBound < header.length + separator.length + size)

/-- No frame is refused before its separator, so the bytes are not empty and `decode` looks at them.
-/
theorem Refused.ne_nil {limit size : Nat} {bytes : Bytes} (h : Refused limit bytes size) :
    bytes ≠ [] := by
  obtain ⟨header, after, rfl, -, -⟩ := h
  simp [separator]

/-- A frame that is refused is not split off, and the error of `split` names the length that it
declares and the limit. The two reasons, limit and memory, give the same error. -/
theorem Refused.split_eq {limit size : Nat} {bytes : Bytes} (h : Refused limit bytes size) :
    split limit bytes = .error (.tooLarge size limit) := by
  obtain ⟨header, after, rfl, hheader, hlong⟩ := h
  rw [hheader.split_eq, splitBody_eq, if_pos hlong]

/-- Behind frames that decode, a frame that is refused is the error of the whole buffer. The
documents of the frames before it are lost with it, since `decode` gives all or none. -/
theorem Refused.decode_eq {limit size : Nat} {whole bytes : Bytes} {d : Decoded}
    (h : Refused limit bytes size) (hwhole : decode limit whole = .ok d) :
    decode limit (whole ++ bytes) = .error (.tooLarge size limit) := by
  rw [decode_append bytes hwhole, decode_of_split_error h.ne_nil h.split_eq]
  rfl

/-- A length that memory cannot count is refused under every limit. -/
example : decode sizeBound (Utf8.encode "Content-Length: 18446744073709551615\r\n\r\n[]") =
    .error (.tooLarge sizeBound sizeBound) := by decide +kernel

/-- What stops before the end of the separator of a first header stops short, whatever the header
declares. So `decode` cannot refuse a frame before the last byte of its separator is there. -/
theorem Announces.unfinished_take {limit size n : Nat} {header : Bytes}
    (h : Announces header size) (hsome : 0 < n) (hfew : n < (header ++ separator).length) :
    Unfinished limit none ((header ++ separator).take n) := by
  have hlength : ((header ++ separator).take n).length = n := List.length_take_of_le hfew.le
  refine .header (List.ne_nil_of_length_pos (by omega)) ?_
  rw [infix_iff_exists_separatorAt]
  rintro ⟨place, hat⟩
  -- A separator that fits into these bytes would start before the end of the header.
  have hfits := hat.add_length_le
  have hwhole := hat.append ((header ++ separator).drop n)
  rw [List.take_append_drop] at hwhole
  rw [List.length_append] at hfew
  exact h.first place (by omega) hwhole

/-! ### Two limits -/

/-- A frame that is not refused under the smaller limit is split off, or fails, as under the larger
one. The limit is asked once, behind a whole header, and it can only refuse. -/
theorem split_of_limit_le {limit wider : Nat} (hle : limit ≤ wider) (buffer : Bytes) :
    split limit buffer = split wider buffer ∨ ∃ size, Refused limit buffer size := by
  rcases announces_or_split_eq buffer with ⟨header, size, after, rfl, hheader⟩ | ⟨e, he⟩
  · by_cases hlong : limit < size ∨ sizeBound < header.length + separator.length + size
    · exact Or.inr ⟨size, header, after, rfl, hheader, hlong⟩
    -- A length that the smaller limit admits is admitted by the larger one.
    · have hwider : ¬ (wider < size ∨ sizeBound < header.length + separator.length + size) := by
        omega
      left
      rw [hheader.split_eq, hheader.split_eq, splitBody_eq, splitBody_eq, if_neg hlong,
        if_neg hwider]
  · left
    rw [he limit, he wider]

/-- A frame that is split off under the smaller limit is split off under the larger one. All that
`split_eq_ok_iff_of_size` asks for is the same, and the body is short enough for both. -/
theorem split_of_wider {limit wider : Nat} (hle : limit ≤ wider) {buffer : Bytes} {s : Split}
    (h : split limit buffer = .ok s) : split wider buffer = .ok s := by
  obtain ⟨hbuffer, hfirst, hdeclares, hadmitted, hfits⟩ := split_eq_ok_iff_of_size.mp h
  exact split_eq_ok_iff_of_size.mpr ⟨hbuffer, hfirst, hdeclares, hadmitted.trans hle, hfits⟩

/-- A buffer decodes, or fails, under the smaller limit as under the larger one, unless a frame of
it is refused behind frames that decode. The recursion is that of `decode`, over what follows the
first frame. -/
theorem decode_eq_or_refused {limit wider : Nat} (hle : limit ≤ wider) (buffer : Bytes) :
    decode limit buffer = decode wider buffer ∨
      ∃ whole bytes d size, buffer = whole ++ bytes ∧ decode limit whole = .ok d ∧
        Refused limit bytes size := by
  by_cases hne : buffer = []
  · left
    rw [hne, decode_nil, decode_nil]
  · cases hs : split limit buffer with
    | error e =>
      rcases split_of_limit_le hle buffer with hsame | ⟨size, hrefused⟩
      · left
        rw [decode_of_split_error hne hs, decode_of_split_error hne (hsame ▸ hs)]
      · exact Or.inr ⟨[], buffer, ⟨[], 0⟩, size, rfl, decode_nil limit, hrefused⟩
    | ok s =>
      have hwider := split_of_wider hle hs
      cases hdocument : Json.ofBytes s.body with
      | error fault =>
        left
        rw [decode_of_split hs, decode_of_split hwider]
        simp only [hdocument]
      | ok document =>
        -- The induction is on the number of bytes: behind the frame there are fewer.
        rcases decode_eq_or_refused hle s.rest with hsame | ⟨whole, bytes, d, size, hrest, hwhole,
          hrefused⟩
        · left
          rw [decode_of_split hs, decode_of_split hwider, hsame]
        · obtain ⟨front, d, hbuffer, hfront⟩ := exists_front_of_split hs hdocument hrest hwhole
          exact Or.inr ⟨front, bytes, d, size, hbuffer, hfront, hrefused⟩
termination_by buffer.length
decreasing_by exact length_rest_lt hs

/-! ### Bodies -/

/-- A frame that fits into memory holds a document: its body is read as that. Unlike in
`Parts.Carries` the limit has no say here, which makes it fit to compare two limits. -/
def Parts.Holds (p : Parts) (document : Json) : Prop :=
  p.bytes.length ≤ sizeBound ∧ Json.ofBytes p.body = .ok document

/-- A frame in front of a buffer is decoded if `limit` admits its body, it holds a document and what
follows decodes. The three conditions are independent, and only the first and the last depend on the
limit. -/
theorem Announces.decode_eq_ok_iff {p : Parts} (h : Announces p.header p.body.length) (limit : Nat)
    (rest : Bytes) (d : Decoded) :
    decode limit (p.bytes ++ rest) = .ok d ↔
      p.body.length ≤ limit ∧ ∃ document more, p.Holds document ∧ decode limit rest = .ok more ∧
        d = Decoded.append ⟨[document], p.bytes.length⟩ more := by
  have hsize : p.bytes.length = p.header.length + separator.length + p.body.length := by
    rw [Parts.bytes, List.length_append, List.length_append]
  -- All of the body is there, so the only fault that a step can find is the length.
  have hsplit : split limit (p.bytes ++ rest) =
      if limit < p.body.length ∨ sizeBound < p.bytes.length then
        .error (.tooLarge p.body.length limit)
      else .ok ⟨p.header, p.body, rest⟩ := by
    have hthere : p.body.length ≤ (p.body ++ rest).length := by
      rw [List.length_append]
      exact Nat.le_add_right _ _
    rw [hsize, Parts.bytes, List.append_assoc, h.split_eq, splitBody_eq, if_pos hthere,
      List.take_left, List.drop_left]
  have hne : p.bytes ++ rest ≠ [] := by
    simp [Parts.bytes, separator]
  by_cases hlong : limit < p.body.length ∨ sizeBound < p.bytes.length
  · rw [if_pos hlong] at hsplit
    rw [decode_of_split_error hne hsplit]
    constructor
    · intro hd
      cases hd
    · rintro ⟨hadmitted, document, more, ⟨hfits, -⟩, -⟩
      omega
  · rw [if_neg hlong] at hsplit
    rw [decode_of_split hsplit]
    constructor
    · intro hd
      cases hdocument : Json.ofBytes p.body with
      | error fault =>
        simp only [hdocument] at hd
        cases hd
      | ok document =>
        simp only [hdocument] at hd
        cases hmore : decode limit rest with
        | error e =>
          rw [hmore] at hd
          cases hd
        | ok more =>
          rw [hmore] at hd
          cases hd
          exact ⟨by omega, document, more, ⟨by omega, hdocument⟩, rfl, by rw [hsize]; rfl⟩
    · rintro ⟨-, document, more, ⟨-, hdocument⟩, hmore, rfl⟩
      simp only [hdocument, hmore]
      rw [hsize]
      rfl

/-- Frames decode exactly if the limit admits their bodies and they hold documents. Since `FramesOf`
and `Parts.Holds` do not mention the limit, it has a say only in the first of these. -/
theorem FramesOf.decode_eq_ok_iff {buffer : Bytes} {parts : List Parts} (h : FramesOf buffer parts)
    (limit : Nat) (d : Decoded) :
    decode limit buffer = .ok d ↔
      (∀ p ∈ parts, p.body.length ≤ limit) ∧ List.Forall₂ Parts.Holds parts d.documents ∧
        d.consumed = buffer.length := by
  obtain ⟨rfl, hannounced⟩ := h
  obtain ⟨documents, consumed⟩ := d
  -- The induction is on the frames; what the buffer was made of is gone from the goal.
  induction parts generalizing documents consumed with
  | nil =>
    rw [List.flatMap_nil, decode_nil]
    simp [List.forall₂_nil_left_iff, eq_comm]
  | cons p parts ih =>
    obtain ⟨hp, hparts⟩ := List.forall_mem_cons.mp hannounced
    rw [List.flatMap_cons, hp.decode_eq_ok_iff, List.forall_mem_cons, List.length_append]
    constructor
    · rintro ⟨hadmitted, document, ⟨later, used⟩, hholds, hmore, hd⟩
      obtain ⟨hbodies, hlater, hused⟩ := (ih hparts later used).mp hmore
      cases hd
      exact ⟨⟨hadmitted, hbodies⟩, .cons hholds hlater, congrArg (p.bytes.length + ·) hused⟩
    · rintro ⟨⟨hadmitted, hbodies⟩, hdocuments, hconsumed⟩
      cases hdocuments with
      | @cons _ document _ later hholds hlater =>
        have hmore := (ih hparts later _).mpr ⟨hbodies, hlater, rfl⟩
        refine ⟨hadmitted, document, _, hholds, hmore, ?_⟩
        rw [show consumed = _ from hconsumed]
        rfl

/-- Take two limits, the first at most the second. A buffer decodes, or fails, under the first as
under the second, unless a frame behind frames that decode declares more than the first admits or
memory can count (`Refused`); then the error names the length that it declares, and the first limit.
A buffer decodes under the first limit exactly if it decodes under the second to the same and is
made of frames with bodies that the first admits. And where a frame declares more than the first
limit admits, this is the error from the last byte of its separator on, whatever part of the body is
there; one byte earlier the buffer still stops short. -/
theorem decode_of_limit_le {limit wider : Nat} (hle : limit ≤ wider) (buffer : Bytes) :
    (decode limit buffer = decode wider buffer ∨
        ∃ whole bytes d size, buffer = whole ++ bytes ∧ decode limit whole = .ok d ∧
          Refused limit bytes size ∧ decode limit buffer = .error (.tooLarge size limit)) ∧
      (∀ d, decode limit buffer = .ok d ↔
        decode wider buffer = .ok d ∧ (∃ parts, FramesOf buffer parts) ∧
          ∀ parts, FramesOf buffer parts → ∀ p ∈ parts, p.body.length ≤ limit) ∧
      ∀ whole d header size, decode limit whole = .ok d → Announces header size → limit < size →
        (∀ part, decode limit (whole ++ (header ++ separator ++ part)) =
          .error (.tooLarge size limit)) ∧
        ∀ n, 0 < n → n < (header ++ separator).length →
          decode limit (whole ++ (header ++ separator).take n) = .error (.incomplete none n) := by
  refine ⟨?_, fun d => ⟨fun h => ?_, ?_⟩, fun whole d header size hwhole hheader hlong => ⟨?_, ?_⟩⟩
  · rcases decode_eq_or_refused hle buffer with
      hsame | ⟨whole, bytes, d, size, rfl, hwhole, hrefused⟩
    · exact Or.inl hsame
    · exact Or.inr ⟨whole, bytes, d, size, rfl, hwhole, hrefused, hrefused.decode_eq hwhole⟩
  -- The frames are those found under the smaller limit, and they do not depend on it.
  · obtain ⟨parts, hparts, -, hbodies⟩ := exists_parts_of_decode h
    have hholds := (hparts.decode_eq_ok_iff limit d).mp h
    refine ⟨(hparts.decode_eq_ok_iff wider d).mpr ⟨?_, hholds.2⟩, ⟨parts, hparts⟩, ?_⟩
    · exact fun p hp => (hbodies p hp).trans hle
    · exact fun parts' hparts' => ((hparts'.decode_eq_ok_iff limit d).mp h).1
  · rintro ⟨hwider, ⟨parts, hparts⟩, hbodies⟩
    have hholds := (hparts.decode_eq_ok_iff wider d).mp hwider
    exact (hparts.decode_eq_ok_iff limit d).mpr ⟨hbodies parts hparts, hholds.2⟩
  · intro part
    exact Refused.decode_eq ⟨header, part, rfl, hheader, Or.inl hlong⟩ hwhole
  · intro n hsome hfew
    refine decode_eq_incomplete_iff.mpr ⟨whole, _, d, rfl, hwhole, ?_, ?_⟩
    · exact hheader.unfinished_take hsome hfew
    · exact (List.length_take_of_le hfew.le).symm

/-- A frame with a body of two bytes, which both limits of `decode_of_limit_two` admit. -/
private def short : Bytes := wrap (Utf8.encode "[]")

/-- The header of a frame with a body of four bytes, one that a limit of two refuses. -/
private def longHeader : Bytes := header 4

/-- Both frames, the `short` one in front, so that the fault of the second is one behind a frame
that decodes. -/
private def shortAndLong : Bytes := short ++ (longHeader ++ separator ++ Utf8.encode "null")

/-- A limit of two bytes refuses the second frame of `shortAndLong`, which a limit of four admits,
as soon as the separator behind its header is there. One byte before that the buffer stops short. -/
theorem decode_of_limit_two :
    2 ≤ 4 ∧ decode 4 shortAndLong = .ok ⟨[.array [], .null], 48⟩ ∧
      (¬ ∃ d, decode 2 shortAndLong = .ok d) ∧
      (∀ part, decode 2 (short ++ (longHeader ++ separator ++ part)) = .error (.tooLarge 4 2)) ∧
      decode 2 (short ++ (longHeader ++ separator).take 20) = .error (.incomplete none 20) := by
  have hcut : splitSeparator? (longHeader ++ separator) = some (longHeader, []) := by
    decide +kernel
  have hlength : declaredLength longHeader = .ok 4 := by decide +kernel
  have hheader : Announces longHeader 4 :=
    ⟨(splitSeparator?_eq_some_iff.mp hcut).2, declaredLength_eq_ok_iff.mp hlength⟩
  have hshort : decode 2 short = .ok ⟨[.array []], 23⟩ := by decide +kernel
  obtain ⟨-, -, hrefused⟩ := decode_of_limit_le (show 2 ≤ 4 by decide) shortAndLong
  obtain ⟨hlong, hearly⟩ := hrefused short _ longHeader 4 hshort hheader (by decide)
  refine ⟨by decide, by decide +kernel, ?_, hlong, hearly 20 (by decide) (by decide +kernel)⟩
  rintro ⟨d, hd⟩
  rw [shortAndLong, hlong] at hd
  cases hd

end LspSession.Frame
