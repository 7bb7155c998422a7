import LspSession.Proofs.Frame.Grammar

/-!
# `LspSession.Proofs.Frame.Unfinished`: what is missing of a frame that stops short

A buffer that stops short is whole frames and then an unfinished one. `Unfinished` says without a
walk which bytes are an unfinished frame: bytes without a separator, or a header that is whole and
fewer bytes of the body than it declares. `decode_eq_incomplete_iff` joins the two, and so the
numbers in the error are those of the unfinished frame alone, however many frames stand before it.

`missing_of_decode` says what the numbers are good for. Where the error says how many bytes are
expected, exactly so many make the frame whole. With fewer the error is the same one with a greater
number of bytes that are there (`Unfinished.append`). With all of them the frame is split off to its
last byte (`Unfinished.exists_split`), and nothing but its body can be at fault.
-/

set_option autoImplicit false

namespace LspSession.Frame

/-! ### Headers that go on -/

/-- A separator stands in a buffer exactly if it stands at some place of it. The left side is how
statements say it, the right side is what `separatorPlace?` looks for. -/
theorem infix_iff_exists_separatorAt {buffer : Bytes} :
    separator <:+: buffer ↔ ∃ place, SeparatorAt buffer place := by
  constructor
  · rintro ⟨before, after, rfl⟩
    refine ⟨before.length, ?_⟩
    unfold SeparatorAt
    rw [List.append_assoc, List.drop_left]
    exact List.prefix_append _ _
  · rintro ⟨place, hat⟩
    exact hat.isInfix.trans (List.drop_suffix place buffer).isInfix

/-- The search `separatorPlace?` fails exactly where there is no separator. One that stands anywhere
would have a first place, and the search would find it. -/
theorem separatorPlace?_eq_none_iff {buffer : Bytes} :
    separatorPlace? buffer = none ↔ ¬ separator <:+: buffer := by
  rw [infix_iff_exists_separatorAt]
  constructor
  · intro hnone hsome
    -- Of the places at which separators stand the search finds the least.
    classical
    have hfound : separatorPlace? buffer = some (Nat.find hsome) :=
      separatorPlace?_eq_some_iff.mpr ⟨Nat.find_spec hsome, fun _ hm => Nat.find_min hsome hm⟩
    rw [hnone] at hfound
    cases hfound
  · intro hnone
    cases hplace : separatorPlace? buffer with
    | none => rfl
    | some place => exact absurd ⟨place, (separatorPlace?_eq_some_iff.mp hplace).1⟩ hnone

/-- A buffer cannot be cut behind its header exactly if no separator stands in it. Then the header
goes on, and `split` can only wait for more. -/
theorem splitSeparator?_eq_none_iff {buffer : Bytes} :
    splitSeparator? buffer = none ↔ ¬ separator <:+: buffer := by
  rw [splitSeparator?, Option.map_eq_none_iff, separatorPlace?_eq_none_iff]

/-- A line at fault is not said to stop short: `lineLength?` fails with an error of the line's own.
So such an error is final (`FrameError.isIncomplete`). -/
theorem isIncomplete_of_lineLength? {line : List Char} {e : FrameError}
    (h : lineLength? line = .error e) : e.isIncomplete = false := by
  unfold lineLength? at h
  split at h
  · cases h
    rfl
  · split at h
    · split at h
      · cases h
      · cases h
        rfl
    · cases h

/-- Lines of which one is at fault are not said to stop short, since the error of `lastLength?` is
that of the line. -/
theorem isIncomplete_of_lastLength? {found : Option Nat} {lines : List (List Char)} {e : FrameError}
    (h : lastLength? found lines = .error e) : e.isIncomplete = false := by
  induction lines generalizing found with
  | nil => cases h
  | cons line rest ih =>
    unfold lastLength? at h
    split at h
    · next he =>
      cases h
      exact isIncomplete_of_lineLength? he
    · exact ih h

/-- A header that is whole is not said to stop short. Whatever is wrong with it, more bytes would
not mend it, and `declaredLength` never asks for any. -/
theorem isIncomplete_of_declaredLength {header : Bytes} {e : FrameError}
    (h : declaredLength header = .error e) : e.isIncomplete = false := by
  unfold declaredLength at h
  split at h
  · cases h
    rfl
  · unfold contentLength at h
    split at h
    · next he =>
      cases h
      exact isIncomplete_of_lastLength? he
    · cases h
      rfl
    · cases h

/-! ### Unfinished frames -/

/-- Bytes that stop inside a frame, with the number of bytes of the whole frame where that is known.
It is known once the header is whole, and then it counts the header, the separator and the declared
length. -/
inductive Unfinished (limit : Nat) : Option Nat → Bytes → Prop where
  /-- The header goes on. -/
  | header {bytes : Bytes} (hsome : bytes ≠ []) (hopen : ¬ separator <:+: bytes) :
    Unfinished limit none bytes
  /-- The header declares a length that the limit and memory admit, and the body goes on. -/
  | body {header part : Bytes} {length : Nat}
      (hfirst : ∀ m < header.length, ¬ SeparatorAt (header ++ separator) m)
      (hdeclares : Declares header length) (hadmitted : length ≤ limit)
      (hfits : header.length + separator.length + length ≤ sizeBound)
      (hshort : part.length < length) :
    Unfinished limit (some (header.length + separator.length + length))
      (header ++ separator ++ part)

namespace Unfinished

/-- No frame is unfinished before its first byte: a buffer that ends with a frame is complete, and
`decode` gives its documents. -/
theorem ne_nil {limit : Nat} {expected : Option Nat} {bytes : Bytes}
    (h : Unfinished limit expected bytes) : bytes ≠ [] := by
  cases h with
  | header hsome => exact hsome
  | body => simp [separator]

/-- Fewer bytes than a whole frame has are there. So the difference between the expected number and
those there is the number of bytes that are missing. -/
theorem length_lt {limit e : Nat} {bytes : Bytes} (h : Unfinished limit (some e) bytes) :
    bytes.length < e := by
  cases h with
  | body _ _ _ _ hshort =>
    rw [List.length_append, List.length_append]
    omega

/-- With fewer bytes than are missing the frame stays `Unfinished`, and the number expected stays
the same. The new bytes all go into the body. -/
theorem append {limit e : Nat} {bytes more : Bytes} (h : Unfinished limit (some e) bytes)
    (hmore : more.length < e - bytes.length) : Unfinished limit (some e) (bytes ++ more) := by
  cases h with
  | body hfirst hdeclares hadmitted hfits hshort =>
    rw [List.length_append, List.length_append] at hmore
    rw [List.append_assoc]
    refine .body hfirst hdeclares hadmitted hfits ?_
    rw [List.length_append]
    omega

/-- With just the bytes that are missing the frame is split off, and nothing follows it. Its header
and its length are those that were there, so `split` has nothing to refuse. -/
theorem exists_split {limit e : Nat} {bytes more : Bytes} (h : Unfinished limit (some e) bytes)
    (hmore : more.length = e - bytes.length) :
    ∃ s, split limit (bytes ++ more) = .ok s ∧ s.rest = [] := by
  cases h with
  | @body header part length hfirst hdeclares hadmitted hfits hshort =>
    rw [List.length_append, List.length_append] at hmore
    -- What was there of the body and what was missing make up the declared length.
    have hbody : (part ++ more).length = length := by
      rw [List.length_append]
      omega
    refine ⟨⟨header, part ++ more, []⟩, split_eq_ok_iff_of_size.mpr ⟨?_, hfirst, ?_, ?_, ?_⟩, rfl⟩
    · show header ++ separator ++ part ++ more = header ++ separator ++ (part ++ more) ++ []
      rw [List.append_nil, List.append_assoc (header ++ separator)]
    · show Declares header (part ++ more).length
      rw [hbody]
      exact hdeclares
    · show (part ++ more).length ≤ limit
      rw [hbody]
      exact hadmitted
    · show header.length + separator.length + (part ++ more).length ≤ sizeBound
      rw [hbody]
      exact hfits

end Unfinished

/-- The error of `split` is that the bytes stop short exactly if they are `Unfinished`. All of them
belong to the frame, so `actual` is their number. -/
theorem split_eq_incomplete_iff {limit actual : Nat} {buffer : Bytes} {expected : Option Nat}
    (hne : buffer ≠ []) :
    split limit buffer = .error (.incomplete expected actual) ↔
      Unfinished limit expected buffer ∧ actual = buffer.length := by
  constructor
  · intro h
    unfold split at h
    split at h
    · next hsep =>
      cases h
      exact ⟨.header hne (splitSeparator?_eq_none_iff.mp hsep), rfl⟩
    · next header after hsep =>
      obtain ⟨rfl, hfirst⟩ := splitSeparator?_eq_some_iff.mp hsep
      split at h
      · next e he =>
        -- An error of the header is final, so it is not the one reported.
        have hfinal := isIncomplete_of_declaredLength he
        cases h
        cases hfinal
      · next length hlength =>
        rw [splitBody_eq] at h
        split at h
        · cases h
        · next hadmitted =>
          split at h
          · cases h
          · next hshort =>
            cases h
            refine ⟨.body hfirst (declaredLength_eq_ok_iff.mp hlength) ?_ ?_ ?_, ?_⟩
            · omega
            · omega
            · omega
            · rw [List.length_append, List.length_append]
  · rintro ⟨h, rfl⟩
    cases h with
    | header hsome hopen => rw [split, splitSeparator?_eq_none_iff.mpr hopen]
    | body hfirst hdeclares hadmitted hfits hshort =>
      rw [split, splitSeparator?_eq_some_iff.mpr ⟨rfl, hfirst⟩]
      simp only [declaredLength_eq_ok_iff.mpr hdeclares]
      rw [splitBody_eq, if_neg (by omega), if_neg (by omega), List.length_append,
        List.length_append]

/-- A buffer stops short exactly if it is whole frames and then an unfinished one. The error of
`decode` counts the bytes of that one alone, however many frames stand before it. -/
theorem decode_eq_incomplete_iff {limit actual : Nat} {buffer : Bytes} {expected : Option Nat} :
    decode limit buffer = .error (.incomplete expected actual) ↔
      ∃ whole bytes d, buffer = whole ++ bytes ∧ decode limit whole = .ok d ∧
        Unfinished limit expected bytes ∧ actual = bytes.length := by
  constructor
  · intro h
    -- The frame that stops short is the one in front, or it stands behind that.
    fun_induction decode limit buffer with
    | case1 => cases h
    | case2 buffer hne e he =>
      cases h
      obtain ⟨hunfinished, hactual⟩ := (split_eq_incomplete_iff hne).mp he
      exact ⟨[], buffer, ⟨[], 0⟩, rfl, decode_nil limit, hunfinished, hactual⟩
    | case3 => cases h
    | case4 buffer hne s hs document hdocument e he ih =>
      cases h
      obtain ⟨whole, bytes, d, hrest, hwhole, hunfinished, hactual⟩ := ih he
      obtain ⟨front, d, hbuffer, hfront⟩ := exists_front_of_split hs hdocument hrest hwhole
      exact ⟨front, bytes, d, hbuffer, hfront, hunfinished, hactual⟩
    | case5 => cases h
  · rintro ⟨whole, bytes, d, rfl, hwhole, hunfinished, hactual⟩
    have hshort : decode limit bytes = .error (.incomplete expected actual) :=
      decode_of_split_error hunfinished.ne_nil
        ((split_eq_incomplete_iff hunfinished.ne_nil).mpr ⟨hunfinished, hactual⟩)
    rw [decode_append _ hwhole, hshort]
    rfl

/-! ### What completes a frame -/

/-- Whole frames, an unfinished one and the bytes that it misses decode to the last byte, or the
body of that frame is no document. There is no third outcome for `decode`, since the header has been
read already. -/
theorem decode_of_finished {limit e : Nat} {whole bytes more : Bytes} {d : Decoded}
    (hwhole : decode limit whole = .ok d) (h : Unfinished limit (some e) bytes)
    (hmore : more.length = e - bytes.length) :
    (∃ d, decode limit (whole ++ bytes ++ more) = .ok d ∧
        d.consumed = (whole ++ bytes ++ more).length) ∨
      ∃ fault, decode limit (whole ++ bytes ++ more) = .error (.badDocument fault) := by
  obtain ⟨s, hs, hnone⟩ := h.exists_split hmore
  have hdecode := decode_append (bytes ++ more) hwhole
  rw [decode_of_split hs, hnone, decode_nil, ← List.append_assoc] at hdecode
  cases hdocument : Json.ofBytes s.body with
  | error fault =>
    rw [hdocument] at hdecode
    exact Or.inr ⟨fault, hdecode⟩
  | ok document =>
    rw [hdocument] at hdecode
    exact Or.inl ⟨_, hdecode, consumed_of_decode hdecode⟩

/-- Take a buffer that stops short, for which `decode` reports `expected` and `actual`. The bytes
that are counted as there are its last ones, at least one of them, and those before them decode. If
the number of bytes expected is not known, then no separator stands in them. If it is known, then it
is greater than the number of those there. They are then a header that declares a length which the
limit admits, its separator, and a part of the body, and a body of that length makes up the number.
With fewer bytes than are missing the buffer stops short in the same frame. With just those that are
missing it decodes to its last byte, or the body of the frame is no document. -/
theorem missing_of_decode {limit actual : Nat} {buffer : Bytes} {expected : Option Nat}
    (h : decode limit buffer = .error (.incomplete expected actual)) :
    let bytes := buffer.drop (buffer.length - actual)
    0 < actual ∧ actual ≤ buffer.length ∧ bytes.length = actual ∧
      (∃ d, decode limit (buffer.take (buffer.length - actual)) = .ok d) ∧
      (expected = none → ¬ separator <:+: bytes) ∧
      ∀ e, expected = some e →
        actual < e ∧
        (∃ header part length, splitSeparator? bytes = some (header, part) ∧
          declaredLength header = .ok length ∧ length ≤ limit ∧
          e = header.length + separator.length + length) ∧
        (∀ more : Bytes, more.length < e - actual →
          decode limit (buffer ++ more) = .error (.incomplete (some e) (actual + more.length))) ∧
        ∀ more : Bytes, more.length = e - actual →
          (∃ d, decode limit (buffer ++ more) = .ok d ∧ d.consumed = (buffer ++ more).length) ∨
            ∃ fault, decode limit (buffer ++ more) = .error (.badDocument fault) := by
  obtain ⟨whole, rest, d, rfl, hwhole, hunfinished, rfl⟩ := decode_eq_incomplete_iff.mp h
  have hplace : (whole ++ rest).length - rest.length = whole.length := by
    rw [List.length_append, Nat.add_sub_cancel]
  intro bytes
  have hbytes : bytes = rest := by
    show (whole ++ rest).drop _ = rest
    rw [hplace, List.drop_left]
  -- The cut that the numbers describe is the one between the whole frames and the other.
  rw [hbytes, hplace, List.take_left]
  refine ⟨List.length_pos_iff.mpr hunfinished.ne_nil, ?_, rfl, ⟨d, hwhole⟩, ?_, ?_⟩
  · rw [List.length_append]
    exact Nat.le_add_left _ _
  · rintro rfl
    cases hunfinished with
    | header _ hopen => exact hopen
  · rintro e rfl
    refine ⟨hunfinished.length_lt, ?_, fun more hmore => ?_, fun more hmore => ?_⟩
    · cases hunfinished with
      | body hfirst hdeclares hadmitted hfits hshort =>
        exact ⟨_, _, _, splitSeparator?_eq_some_iff.mpr ⟨rfl, hfirst⟩,
          declaredLength_eq_ok_iff.mpr hdeclares, hadmitted, rfl⟩
    · refine decode_eq_incomplete_iff.mpr ⟨whole, rest ++ more, d, ?_, hwhole, ?_, ?_⟩
      · exact List.append_assoc _ _ _
      · exact hunfinished.append hmore
      · exact (List.length_append).symm
    · exact decode_of_finished hwhole hunfinished hmore

/-- A whole frame, and one of which the last two bytes of the body are missing, so that `decode`
knows how many it expects. -/
private def cutInBody : Bytes :=
  Utf8.encode "Content-Length: 2\r\n\r\n[]Content-Length: 4\r\n\r\nnu"

/-- The second frame of `cutInBody` has twenty-five bytes, of which twenty-three are there. One byte
more leaves it unfinished, and two bytes more finish it. -/
theorem missing_of_cutInBody :
    decode 4 cutInBody = .error (.incomplete (some 25) 23) ∧
      (∃ d, decode 4 (cutInBody.take (cutInBody.length - 23)) = .ok d) ∧
      decode 4 (cutInBody ++ Utf8.encode "l") = .error (.incomplete (some 25) 24) ∧
      ((∃ d, decode 4 (cutInBody ++ Utf8.encode "ll") = .ok d ∧
          d.consumed = (cutInBody ++ Utf8.encode "ll").length) ∨
        ∃ fault, decode 4 (cutInBody ++ Utf8.encode "ll") = .error (.badDocument fault)) := by
  have hshort : decode 4 cutInBody = .error (.incomplete (some 25) 23) := by decide +kernel
  obtain ⟨-, -, -, hfront, -, hknown⟩ := missing_of_decode hshort
  obtain ⟨-, -, hfewer, hall⟩ := hknown 25 rfl
  exact ⟨hshort, hfront, hfewer (Utf8.encode "l") (by decide +kernel),
    hall (Utf8.encode "ll") (by decide +kernel)⟩

end LspSession.Frame
