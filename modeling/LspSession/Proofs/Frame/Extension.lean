import LspSession.Proofs.Frame.Separator

/-!
# `LspSession.Proofs.Frame.Extension`: decoding when more bytes come

A decoder that is fed a stream in pieces looks at the same front of it again and again. It may do
so only if the bytes that come later never change what the earlier ones said. The theorems:

* `decode_append`: a buffer that decodes gives the same documents when bytes follow, and the
  outcome is then that of the bytes that follow.
* `decode_append_of_error`: an error other than a frame that stops short stays that very error,
  whatever follows. So bytes thrown away because of it could never have been decoded.

Both rest on the same fact about one frame, `split_append` and `split_append_of_error`. The only
outcome that more bytes can change is a frame that stops short.
-/

set_option autoImplicit false

namespace LspSession.Frame

/-! ### One frame -/

/-- The outcome of `splitBody` without the count of `Bytes.lengthUpTo`, which stops at the length
wanted. All later proofs use this form, where the bytes that are there are counted in full. -/
theorem splitBody_eq (limit : Nat) (header after : Bytes) (length : Nat) :
    splitBody limit header after length =
      if limit < length ∨ sizeBound < header.length + separator.length + length then
        .error (.tooLarge length limit)
      else if length ≤ after.length then .ok ⟨header, after.take length, after.drop length⟩
      else .error (.incomplete (some (header.length + separator.length + length))
        (header.length + separator.length + after.length)) := by
  unfold splitBody
  -- A count that stops at `length` still tells whether so many bytes are there.
  simp only [Bytes.lengthUpTo_eq]
  split
  · rfl
  · by_cases hfits : length ≤ after.length
    · rw [if_pos (Nat.min_eq_left hfits), if_pos hfits]
    · rw [Nat.min_eq_right (by omega), if_neg (by omega), if_neg hfits]

/-- A body that is there stays when more bytes come: the same bytes are taken as the body, and
`more` is added to the `rest` behind it. -/
theorem splitBody_append {limit length : Nat} {header after : Bytes} {s : Split} (more : Bytes)
    (h : splitBody limit header after length = .ok s) :
    splitBody limit header (after ++ more) length = .ok { s with rest := s.rest ++ more } := by
  rw [splitBody_eq] at h ⊢
  split at h
  · cases h
  · next hadmitted =>
    split at h
    · next hfits =>
      -- All of the body stands in `after`, so `take` and `drop` do not reach the bytes behind.
      cases h
      rw [if_neg hadmitted, if_pos (by rw [List.length_append]; omega),
        List.take_append_of_le_length hfits, List.drop_append_of_le_length hfits]
    · cases h

/-- A body that is refused for its length stays refused, whatever follows, because the limit looks
at the declared length only. A body that is not all there is excluded by `hfinal`. -/
theorem splitBody_append_of_error {limit length : Nat} {header after : Bytes} {e : FrameError}
    (more : Bytes) (h : splitBody limit header after length = .error e)
    (hfinal : e.isIncomplete = false) :
    splitBody limit header (after ++ more) length = .error e := by
  rw [splitBody_eq] at h ⊢
  split at h
  · next hrefused =>
    rw [if_pos hrefused]
    exact h
  · split at h
    · cases h
    · -- A body that is not all there is no final error.
      cases h
      cases hfinal

/-- A frame that `split` takes off stays the same frame when bytes follow, with these added to its
`rest`. The header, the declared length and the body are all decided by the bytes already there. -/
theorem split_append {limit : Nat} {buffer : Bytes} {s : Split} (more : Bytes)
    (h : split limit buffer = .ok s) :
    split limit (buffer ++ more) = .ok { s with rest := s.rest ++ more } := by
  unfold split at h ⊢
  split at h
  · cases h
  · next header after hsep =>
    -- The separator is found where it was, so the header and its length are the same.
    rw [splitSeparator?_append more hsep]
    simp only
    split at h
    · cases h
    · next length hlength => exact splitBody_append more h

/-- An error of `split` other than a frame that stops short does not go away when bytes follow. Its
cause stands in the header or in the length declared there, and both are complete. -/
theorem split_append_of_error {limit : Nat} {buffer : Bytes} {e : FrameError} (more : Bytes)
    (h : split limit buffer = .error e) (hfinal : e.isIncomplete = false) :
    split limit (buffer ++ more) = .error e := by
  unfold split at h ⊢
  split at h
  · cases h
    cases hfinal
  · next header after hsep =>
    rw [splitSeparator?_append more hsep]
    simp only
    split at h
    · exact h
    · next length hlength => exact splitBody_append_of_error more h hfinal

/-- No frame is found in an empty buffer, where `split` reports that it stops short with no byte
there. This is why `decode` looks at an empty buffer first. -/
theorem split_nil (limit : Nat) : split limit [] = .error (.incomplete none 0) := by
  rfl

/-! ### All frames of a buffer -/

/-- The documents of a buffer and then those of another, with the bytes of both counted. This is
what `decode` gives for the first buffer followed by the second. -/
def Decoded.append (d e : Decoded) : Decoded :=
  ⟨d.documents ++ e.documents, d.consumed + e.consumed⟩

/-- One step of `decode`: behind a frame that `split` takes off, decoding goes on with the rest, and
the document in front is put before what comes of it. The emptiness test of `decode` has no say
here, since no frame is empty. -/
theorem decode_of_split {limit : Nat} {buffer : Bytes} {s : Split}
    (h : split limit buffer = .ok s) :
    decode limit buffer =
      match Json.ofBytes s.body with
      | .error fault => .error (.badDocument fault)
      | .ok document => (decode limit s.rest).map (Decoded.append ⟨[document], s.size⟩) := by
  have hne : buffer ≠ [] := by
    intro hnil
    rw [hnil, split_nil] at h
    cases h
  -- The match of `decode` remembers its outcome for termination, so it is opened by `split`.
  rw [decode, if_neg hne]
  split
  · next e he =>
    rw [h] at he
    cases he
  · next s' hs' =>
    rw [h] at hs'
    cases hs'
    cases Json.ofBytes s.body with
    | error fault => rfl
    | ok document => cases decode limit s.rest <;> rfl

/-- Decoding stops where no frame can be split off, with the very error that `split` reports. An
empty buffer is left out by `hne`, since `decode` gives no documents for it and no error. -/
theorem decode_of_split_error {limit : Nat} {buffer : Bytes} {e : FrameError} (hne : buffer ≠ [])
    (h : split limit buffer = .error e) : decode limit buffer = .error e := by
  rw [decode, if_neg hne]
  split
  · next e' he' =>
    rw [h] at he'
    cases he'
    rfl
  · next s hs =>
    rw [h] at hs
    cases hs

/-- A buffer that decodes starts with a frame that `split` takes off, unless it is empty. Any error
of `split` would have been the error of `decode` (`decode_of_split_error`). -/
theorem exists_split_of_decode {limit : Nat} {buffer : Bytes} {d : Decoded} (hne : buffer ≠ [])
    (h : decode limit buffer = .ok d) : ∃ s, split limit buffer = .ok s := by
  cases hs : split limit buffer with
  | ok s => exact ⟨s, rfl⟩
  | error e =>
    rw [decode_of_split_error hne hs] at h
    cases h

/-- Only no bytes give no documents: `decode` gives at least the document of the first frame, and a
buffer that is not empty has one if it decodes at all. -/
theorem eq_nil_of_documents_nil {limit : Nat} {buffer : Bytes} {d : Decoded}
    (h : decode limit buffer = .ok d) (hnone : d.documents = []) : buffer = [] := by
  refine Decidable.byContradiction fun hne => ?_
  obtain ⟨s, hs⟩ := exists_split_of_decode hne h
  -- There is a frame in front, and its document is among those given.
  rw [decode_of_split hs] at h
  split at h
  · cases h
  · cases hrest : decode limit s.rest with
    | error e =>
      rw [hrest] at h
      cases h
    | ok rest =>
      rw [hrest] at h
      cases h
      cases hnone

/-- A buffer that decodes gives the same documents when bytes follow, and what follows is decoded as
if it stood alone. So a stream may be decoded in pieces wherever a piece ends with a frame. -/
theorem decode_append {limit : Nat} {buffer : Bytes} {d : Decoded} (more : Bytes)
    (h : decode limit buffer = .ok d) :
    decode limit (buffer ++ more) = (decode limit more).map d.append := by
  -- Only the end of the buffer and a frame with good frames behind it are no errors.
  fun_induction decode limit buffer generalizing d with
  | case1 =>
    cases h
    cases hmore : decode limit more <;> simp [Except.map, hmore, Decoded.append]
  | case2 => cases h
  | case3 => cases h
  | case4 => cases h
  | case5 buffer hne s hs document hdocument d' hd' ih =>
    cases h
    have hlong := split_append more hs
    rw [decode_of_split hlong]
    simp only [hdocument, ih hd']
    cases decode limit more with
    | error e => rfl
    | ok rest =>
      simp only [Except.map, Decoded.append, Split.size, List.cons_append, List.nil_append,
        Nat.add_assoc]

/-- Behind a buffer that decodes, `more` decodes with it exactly if it decodes alone, and the whole
is then the two put together by `Decoded.append`. -/
theorem decode_append_eq_ok_iff {limit : Nat} {buffer more : Bytes} {d whole : Decoded}
    (h : decode limit buffer = .ok d) :
    decode limit (buffer ++ more) = .ok whole ↔
      ∃ rest, decode limit more = .ok rest ∧ d.append rest = whole := by
  rw [decode_append more h]
  cases decode limit more with
  | error e => simp [Except.map]
  | ok rest => simp [Except.map]

/-- An error of `decode` other than a frame that stops short stays that error, whatever follows. A
decoder may throw away the bytes that led to it, for no later byte could have made documents of
them. -/
theorem decode_append_of_error {limit : Nat} {buffer : Bytes} {e : FrameError} (more : Bytes)
    (h : decode limit buffer = .error e) (hfinal : e.isIncomplete = false) :
    decode limit (buffer ++ more) = .error e := by
  -- The error is that of the frame in front, of its body, or of what stands behind it.
  fun_induction decode limit buffer generalizing e with
  | case1 => cases h
  | case2 buffer hne e' he' =>
    cases h
    exact decode_of_split_error (by simp [hne]) (split_append_of_error more he' hfinal)
  | case3 buffer hne s hs fault hfault =>
    cases h
    rw [decode_of_split (split_append more hs)]
    simp only [hfault]
  | case4 buffer hne s hs document hdocument e' he' ih =>
    cases h
    rw [decode_of_split (split_append more hs)]
    simp only [hdocument, ih he' hfinal]
    rfl
  | case5 => cases h

/-- The front of bytes that decode decodes too, or it stops short of a whole frame. Any other error
of `decode` would have stayed with the bytes behind it (`decode_append_of_error`), and the whole
would not decode. -/
theorem decode_front_cases {limit : Nat} {front more : Bytes} {whole : Decoded}
    (h : decode limit (front ++ more) = .ok whole) :
    (∃ d, decode limit front = .ok d) ∨
      ∃ expected actual, decode limit front = .error (.incomplete expected actual) := by
  cases hfront : decode limit front with
  | ok d => exact Or.inl ⟨d, rfl⟩
  | error e =>
    right
    cases e with
    | incomplete expected actual => exact ⟨expected, actual, rfl⟩
    | _ =>
      rw [decode_append_of_error more hfront rfl] at h
      cases h

end LspSession.Frame
