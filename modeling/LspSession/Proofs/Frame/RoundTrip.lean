import LspSession.Proofs.Frame.Grammar
import LspSession.Proofs.Json.RoundTrip

/-!
# `LspSession.Proofs.Frame.RoundTrip`: frames that were written are read

`encode` writes a document behind a header of one line, and what it writes is a frame in the sense
of `Parts.Carries`: the header has no carriage return, so that the first separator is the one behind
it (`carriageReturn_not_mem_header`), and it declares the number of bytes of the body
(`declares_header`). Nothing is asked of the body but that it is read as the document. So documents
that were written one after another behind bytes that decode are decoded behind those of these bytes
(`decode_foldl_append`).
-/

set_option autoImplicit false

namespace LspSession.Frame

/-! ### The header that is written -/

/-- The text of the `header` for a body of a given length, as characters: the name of the length, a
colon, a blank, and the digits of the number. -/
def headerText (length : Nat) : List Char :=
  lengthName.toList ++ ':' :: ' ' :: Decimal.digits length

/-- The bytes of `header` are the UTF-8 of its text. Facts about the header are proved of the
characters and carried over by this equation. -/
theorem header_eq (length : Nat) : header length = (headerText length).flatMap Utf8.encodeChar := by
  unfold header Utf8.encode headerText Decimal.render
  simp

/-- What is true of the characters of `lengthName`, of the colon and blank behind it and of digits
is true of all characters of a header. The digits are those of any number, so they are taken one by
one. -/
theorem forall_mem_headerText {P : Char → Prop} {length : Nat}
    (hname : ∀ c ∈ lengthName.toList ++ [':', ' '], P c)
    (hdigit : ∀ d < 10, P (Decimal.digitChar d)) :
    ∀ c ∈ headerText length, P c := by
  intro c hc
  have htext : headerText length = (lengthName.toList ++ [':', ' ']) ++ Decimal.digits length := by
    simp [headerText]
  rw [htext] at hc
  rcases List.mem_append.mp hc with hc | hc
  · exact hname c hc
  · obtain ⟨d, hd, rfl⟩ := Decimal.mem_digits hc
    exact hdigit d hd

/-- The characters of a header are printable ASCII characters. So each of them is one byte, and none
is a carriage return or a line feed. -/
theorem headerText_ascii (length : Nat) :
    ∀ c ∈ headerText length, 0x20 ≤ c.toNat ∧ c.toNat < 0x80 := by
  have hname : (lengthName.toList ++ [':', ' ']).all
      (fun c => 0x20 ≤ c.toNat && c.toNat < 0x80) = true := by decide
  refine forall_mem_headerText (fun c hc => ?_) (by decide)
  simpa using List.all_eq_true.mp hname c hc

/-- No carriage return stands in a header that `header` writes. Hence no separator starts within it,
whatever the length is and whatever follows. -/
theorem carriageReturn_not_mem_header (length : Nat) : 0x0D ∉ header length := by
  have hascii := headerText_ascii length
  rw [header_eq, Utf8.flatMap_encodeChar_of_ascii fun c hc => (hascii c hc).2]
  intro hmem
  obtain ⟨c, hc, hbyte⟩ := List.mem_map.mp hmem
  obtain ⟨hlow, hhigh⟩ := hascii c hc
  have hcode := congrArg UInt8.toNat hbyte
  rw [UInt8.toNat_ofNat_of_lt' (show c.toNat < 256 by omega)] at hcode
  have hthirteen : (0x0D : UInt8).toNat = 13 := rfl
  omega

/-- The digits of a number are what is left of the value of a header line when blanks are trimmed.
The one blank in front is the one that `header` writes behind the colon. -/
theorem trims_digits (n : Nat) : Text.Trims (' ' :: Decimal.digits n) (Decimal.digits n) := by
  have hdigit : ∀ d < 10, Text.isBlank (Decimal.digitChar d) = false := by decide
  have hblank (c : Char) (hc : c ∈ Decimal.digits n) : Text.isBlank c = false := by
    obtain ⟨d, hd, rfl⟩ := Decimal.mem_digits hc
    exact hdigit d hd
  -- One blank stands in front of the digits and nothing behind them.
  refine ⟨⟨[' '], [], ?_, ?_⟩, ?_, ?_⟩
  · rw [List.append_nil]
    rfl
  · rw [List.append_nil, List.forall_mem_singleton]
    rfl
  · exact fun c hc => hblank c (List.mem_of_mem_head? hc)
  · exact fun c hc => hblank c (List.mem_of_mem_getLast? hc)

/-- A header that `header` writes declares the length that it was written for, if a word holds that
length. The reader's relation `Declares` is met by a single line. -/
theorem declares_header {length : Nat} (hfits : length ≤ sizeBound) :
    Declares (header length) length := by
  -- There is one line, since a line end would need a carriage return.
  have hline : ¬ lineEnd <:+: headerText length := by
    intro hin
    have hreturn : '\r' ∈ headerText length := hin.subset List.mem_cons_self
    have := (headerText_ascii length '\r' hreturn).1
    exact absurd this (by decide)
  have hgives : LineGives (headerText length) (some length) :=
    .length ⟨rfl, by decide⟩ ⟨_, Text.trim_eq_iff.mp (by decide), rfl⟩ (trims_digits length)
      (Decimal.ofNumeral?_eq_some_iff.mp (Decimal.ofNumeral?_digits length)) hfits
  refine ⟨headerText length, [headerText length], [some length], header_eq length, ?_, ?_, rfl⟩
  · exact ⟨List.cons_ne_nil _ _, List.intercalate_singleton.symm, by simpa using hline⟩
  · exact .cons hgives .nil

/-- The first separator behind a header that was written is the one written with it. This holds for
any bytes `after` the header, since its first byte cannot stand in the header. -/
theorem not_separatorAt_of_lt_header {length m : Nat} (after : Bytes)
    (hm : m < (header length).length) : ¬ SeparatorAt (header length ++ after) m := by
  -- A separator starts with a carriage return, and that would be a byte of the header.
  rintro ⟨tail, htail⟩
  apply carriageReturn_not_mem_header length
  have hat : (header length ++ after)[m]? = some 0x0D := by
    rw [← List.head?_drop, ← htail]
    rfl
  rw [List.getElem?_append_left hm] at hat
  exact List.mem_of_getElem? hat

/-! ### Documents that are written -/

/-- The body that `encode` writes for a document, the UTF-8 of its compact text. -/
def bodyOf (document : Json) : Bytes := Utf8.encode document.render

/-- The parts of the frame that `encode` writes for a document, a header for the length of its body
and the body itself. -/
def partsOf (document : Json) : Parts := ⟨header (bodyOf document).length, bodyOf document⟩

/-- A document is written as its parts: `encode` is `partsOf` put together. With this the writer is
seen as a producer of `Parts`, of which the grammar speaks. -/
theorem encode_eq_bytes (document : Json) : encode document = (partsOf document).bytes := rfl

/-- A body is made of the characters of its document, each in UTF-8. The reader of documents is
described in terms of `Json.bytesOf`, and this joins the two. -/
theorem bodyOf_eq (document : Json) : bodyOf document = Json.bytesOf document.chars := by
  rw [bodyOf, Utf8.encode, Json.render, String.toList_ofList]
  rfl

/-- A frame that `encode` writes is as long as its header, the separator and its body. The header
grows with the number of digits of the length of the body. -/
theorem length_encode (document : Json) :
    (encode document).length =
      (header (bodyOf document).length).length + separator.length + (bodyOf document).length := by
  rw [encode_eq_bytes, Parts.bytes, List.length_append, List.length_append]
  rfl

/-- A body is no longer than its frame, so a bound on the frame is a bound on the body. -/
theorem length_bodyOf_le (document : Json) :
    (bodyOf document).length ≤ (encode document).length := by
  rw [length_encode]
  exact Nat.le_add_left _ _

/-- A frame that `encode` writes is taken apart by `splitSeparator?` where it was put together, even
if the text of the document looks like a separator. -/
theorem splitSeparator?_encode (document : Json) :
    splitSeparator? (encode document) =
      some (header (bodyOf document).length, bodyOf document) :=
  splitSeparator?_eq_some_iff.mpr
    ⟨rfl, fun _ hm => not_separatorAt_of_lt_header separator hm⟩

/-- A frame that is written carries the document that is read from its text, if the limit admits the
text. Whether that is the document that was written is not asked here (`hread`). -/
theorem carries_partsOf {limit : Nat} {document read : Json}
    (hread : Json.ofBytes (bodyOf document) = .ok read)
    (hlimit : (bodyOf document).length ≤ limit) (hfits : (bodyOf document).length ≤ sizeBound) :
    (partsOf document).Carries limit read := by
  refine ⟨fun m hm => ?_, declares_header hfits, hlimit, hread⟩
  rw [Parts.bytes, List.append_assoc]
  exact not_separatorAt_of_lt_header _ hm

/-- Documents are written by `encodeAll` as frames that carry them, provided that each is read from
its own text and the limit admits each text. -/
theorem madeOf_encodeAll {limit : Nat} {documents : List Json}
    (hread : ∀ m ∈ documents, Json.ofBytes (bodyOf m) = .ok m)
    (hlimit : ∀ m ∈ documents, (bodyOf m).length ≤ limit)
    (hfits : (encodeAll documents).length ≤ sizeBound) :
    MadeOf limit (encodeAll documents) (documents.map partsOf) documents := by
  refine ⟨?_, ?_⟩
  · rw [List.flatMap_map]
    rfl
  · induction documents with
    | nil => exact .nil
    | cons m documents ih =>
      -- The bound on all frames is one on the first body and one on the frames behind it.
      rw [encodeAll_cons, List.length_append] at hfits
      obtain ⟨hm, hread⟩ := List.forall_mem_cons.mp hread
      obtain ⟨hmlimit, hlimit⟩ := List.forall_mem_cons.mp hlimit
      have hbody := length_bodyOf_le m
      exact .cons (carries_partsOf hm hmlimit (by omega)) (ih hread hlimit (by omega))

/-- Documents that `append` writes one after another stand behind what was there, just as
`encodeAll` writes them. -/
theorem foldl_append (documents : List Json) (buffer : Bytes) :
    documents.foldl append buffer = buffer ++ encodeAll documents := by
  induction documents generalizing buffer with
  | nil => exact (List.append_nil buffer).symm
  | cons m documents ih =>
    rw [List.foldl_cons, ih, append, encodeAll_cons, List.append_assoc]

/-- Documents that `encodeAll` wrote are decoded, in their order and with every byte used. The
hypothesis is of each document alone: it is read from its own text. -/
theorem decode_encodeAll {limit : Nat} {documents : List Json}
    (hread : ∀ m ∈ documents, Json.ofBytes (bodyOf m) = .ok m)
    (hlimit : ∀ m ∈ documents, (bodyOf m).length ≤ limit)
    (hfits : (encodeAll documents).length ≤ sizeBound) :
    decode limit (encodeAll documents) = .ok ⟨documents, (encodeAll documents).length⟩ :=
  (madeOf_encodeAll hread hlimit hfits).decode hfits

/-- A document that `encode` wrote is decoded to what is read from its text. For documents with
members out of order that is another document than the one written, which is why both have a name.
-/
theorem decode_encode_of_read {limit : Nat} {m read : Json}
    (hread : Json.ofBytes (bodyOf m) = .ok read) (hlimit : (bodyOf m).length ≤ limit)
    (hfits : (encode m).length ≤ sizeBound) :
    decode limit (encode m) = .ok ⟨[read], (encode m).length⟩ := by
  have hcarries := carries_partsOf hread hlimit (Nat.le_trans (length_bodyOf_le m) hfits)
  have hmade : MadeOf limit (encode m) [partsOf m] [read] :=
    ⟨(List.append_nil _).symm, .cons hcarries .nil⟩
  exact hmade.decode hfits

/-- A document that `encode` wrote is decoded to itself, if its numbers are integers, its members
are in order and no more containers are open at once than may be. These are what
`Json.ofBytes_render_of_isOrdered` asks for. -/
theorem decode_encode_of_isOrdered {limit : Nat} {m : Json}
    (hintegral : m.isIntegral Json.depthLimit = true) (hordered : m.isOrdered = true)
    (hlimit : (bodyOf m).length ≤ limit) (hfits : (encode m).length ≤ sizeBound) :
    decode limit (encode m) = .ok ⟨[m], (encode m).length⟩ :=
  decode_encode_of_read (Json.ofBytes_render_of_isOrdered hintegral hordered) hlimit hfits

/-- Documents that are each read from their own text, and whose texts the limit admits, are written
one after another behind bytes that decode. Their frames are then behind these bytes, and the whole
decodes to the documents of the bytes and then those written, with every byte used. The header that
is written for a document is found again whatever the body is, and is read as the number of bytes of
the body. Documents are read from their own text if their numbers are integers, their members are in
order and no more containers are open at once than may be. -/
theorem decode_foldl_append {limit : Nat} {buffer : Bytes} {d : Decoded} {documents : List Json}
    (hread : ∀ m ∈ documents, Json.ofBytes (Utf8.encode m.render) = .ok m)
    (hlimit : ∀ m ∈ documents, (Utf8.encode m.render).length ≤ limit)
    (hbuffer : decode limit buffer = .ok d)
    (hfits : (buffer ++ encodeAll documents).length ≤ sizeBound) :
    let whole := documents.foldl append buffer
    whole = buffer ++ documents.flatMap encode ∧
      decode limit whole = .ok ⟨d.documents ++ documents, whole.length⟩ ∧
      (∀ m : Json, (Utf8.encode m.render).length ≤ sizeBound →
        splitSeparator? (encode m) =
            some (header (Utf8.encode m.render).length, Utf8.encode m.render) ∧
          declaredLength (header (Utf8.encode m.render).length) =
            .ok (Utf8.encode m.render).length) ∧
      ∀ m : Json, m.isIntegral Json.depthLimit = true → m.isOrdered = true →
        Json.ofBytes (Utf8.encode m.render) = .ok m := by
  intro whole
  have hwhole : whole = buffer ++ encodeAll documents := foldl_append documents buffer
  refine ⟨hwhole, ?_, fun m hm => ?_, fun m => Json.ofBytes_render_of_isOrdered⟩
  · rw [List.length_append] at hfits
    -- What is written is decoded behind the bytes that were there as if it stood alone.
    rw [hwhole, decode_append _ hbuffer, decode_encodeAll hread hlimit (by omega),
      List.length_append, ← consumed_of_decode hbuffer]
    rfl
  · exact ⟨splitSeparator?_encode m, declaredLength_eq_ok_iff.mpr (declares_header hm)⟩

/-- Documents with characters of several bytes and with texts that look like a header. A reader that
searched for the separator in the body would go astray on them. -/
private def lookalikes : List Json :=
  [.array [.string "é𝄞", .string "\r\n\r\nContent-Length: 5\r\n\r\n"],
    .object [("Content-Length", .number (.integer (-7))), ("[", .array [.object []]),
      ("é", .null)],
    .null]

/-- Behind a frame with another header the `lookalikes` are read as they were written. The frame in
front has an empty value on a line of another name and the name of the length in capitals. -/
theorem decode_lookalikes :
    let before := Utf8.encode "X:\r\nCONTENT-LENGTH:4\r\n\r\ntrue"
    (∀ m ∈ lookalikes, Json.ofBytes (Utf8.encode m.render) = .ok m) ∧
      (∀ m ∈ lookalikes, (Utf8.encode m.render).length ≤ 64) ∧
      decode 64 before = .ok ⟨[.bool true], before.length⟩ ∧
      (before ++ encodeAll lookalikes).length ≤ sizeBound ∧
      decode 64 (lookalikes.foldl append before) =
        .ok ⟨.bool true :: lookalikes, (lookalikes.foldl append before).length⟩ := by
  intro before
  have hread : ∀ m ∈ lookalikes, Json.ofBytes (Utf8.encode m.render) = .ok m := by
    have hplain : ∀ m ∈ lookalikes,
        m.isIntegral Json.depthLimit = true ∧ m.isOrdered = true := by decide +kernel
    exact fun m hm => Json.ofBytes_render_of_isOrdered (hplain m hm).1 (hplain m hm).2
  have hlimit : ∀ m ∈ lookalikes, (Utf8.encode m.render).length ≤ 64 := by decide +kernel
  have hbefore : decode 64 before = .ok ⟨[.bool true], before.length⟩ := by decide +kernel
  have hfits : (before ++ encodeAll lookalikes).length ≤ sizeBound := by decide +kernel
  exact ⟨hread, hlimit, hbefore, hfits, (decode_foldl_append hread hlimit hbefore hfits).2.1⟩

end LspSession.Frame
