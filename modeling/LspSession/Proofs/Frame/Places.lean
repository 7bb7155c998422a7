import LspSession.Proofs.Frame.Grammar
import LspSession.Proofs.Outcome

/-!
# `LspSession.Proofs.Frame.Places`: frames by their places in a buffer

`split` and `decode` take frames off lists of bytes. A machine keeps the buffer where it is and
computes places in it, with numbers of a word that can overflow, from lengths that the other side
may declare as it likes. Here the same reading is written in that way: `locate?` gives the place of
the first body, and `pass?` is one pass of the loop over the frames, which goes on from the place
that the last one came to. Both have no value if a number leaves its range, or if bytes are asked
for that are not there.

`places_of_buffer` says that this never happens, that the places found are right, that every pass
brings the reading forward within the buffer, and that after a quarter as many passes as there are
bytes it has come to what `decode` gives.

Only one sum can overflow, that of the place where a body starts and the length declared for it, and
it is checked. Every other number is the place of a byte that is there.
-/

set_option autoImplicit false

namespace LspSession.Frame

/-! ### Numbers of a word -/

/-- The sum of two numbers, if a word holds it. A machine would wrap round beyond `sizeBound` or
stop; here such a sum has no value. -/
def sum? (a b : Nat) : Option Nat := if a + b ≤ sizeBound then some (a + b) else none

/-- The difference of two numbers, if it is not negative. As with `sum?`, having no value stands for
the fault that a machine would run into. -/
def difference? (a b : Nat) : Option Nat := if b ≤ a then some (a - b) else none

/-- The bytes of `buffer` between two places, if the places are in the buffer and in order. Outside
of it a machine would stop with a fault, and here there is no value. -/
def slice? (buffer : Bytes) (start stop : Nat) : Option Bytes :=
  if start ≤ stop ∧ stop ≤ buffer.length then some ((buffer.drop start).take (stop - start))
  else none

/-- Below `sizeBound` a sum is the plain one. -/
theorem sum?_of_le {a b : Nat} (h : a + b ≤ sizeBound) : sum? a b = some (a + b) := if_pos h

/-- Beyond `sizeBound` there is no sum, which is the one fault that `locateBody?` looks out for
itself. -/
theorem sum?_of_lt {a b : Nat} (h : sizeBound < a + b) : sum? a b = none :=
  if_neg (Nat.not_le.mpr h)

/-- Where it is not negative, `difference?` is the plain difference. -/
theorem difference?_of_le {a b : Nat} (h : b ≤ a) : difference? a b = some (a - b) := if_pos h

/-- The bytes in front of a place, which `slice?` gives for every place in the buffer: these are the
bytes of a header. -/
theorem slice?_zero {buffer : Bytes} {stop : Nat} (h : stop ≤ buffer.length) :
    slice? buffer 0 stop = some (buffer.take stop) := if_pos ⟨Nat.zero_le stop, h⟩

/-- The bytes behind a place, which `slice?` gives for every place in the buffer: these are what
remains for a pass of the loop. -/
theorem slice?_length {buffer : Bytes} {start : Nat} (h : start ≤ buffer.length) :
    slice? buffer start buffer.length = some (buffer.drop start) := by
  rw [slice?, if_pos ⟨h, Nat.le_refl _⟩, ← List.length_drop, List.take_length]

/-- The bytes between what stands before and behind them. A body is found in this way between its
header and the rest of the buffer. -/
theorem slice?_append (before bytes after : Bytes) :
    slice? (before ++ bytes ++ after) before.length (before.length + bytes.length) =
      some bytes := by
  rw [slice?, if_pos ⟨Nat.le_add_right _ _, by simp⟩, List.append_assoc,
    List.drop_left, Nat.add_sub_cancel_left, List.take_left]

/-! ### The first body -/

/-- Where a body starts and where it stops, both counted in bytes from the front of the buffer. -/
structure Place where
  start : Nat
  stop : Nat
  deriving DecidableEq, Repr

/-- The place of a body of a declared `length` behind a header of so many bytes. The checks come in
the order in which the program makes them: the limit, the sum of the places, the bytes that are
there. -/
def locateBody? (limit : Nat) (buffer : Bytes) (header length : Nat) :
    Option (Except FrameError Place) :=
  if limit < length then some (.error (.tooLarge length limit))
  else do
    let start ← sum? header separator.length
    match sum? start length with
    | none => some (.error (.tooLarge length limit))
    | some stop =>
      if buffer.length < stop then
        -- The log is told how many bytes are missing.
        let _missing ← difference? stop buffer.length
        some (.error (.incomplete (some stop) buffer.length))
      else some (.ok ⟨start, stop⟩)

/-- The place of the first body in a buffer. The header is found by `separatorPlace?` and cut out as
a slice, and what it declares decides where the body stops. -/
def locate? (limit : Nat) (buffer : Bytes) : Option (Except FrameError Place) :=
  match separatorPlace? buffer with
  | none => some (.error (.incomplete none buffer.length))
  | some place => do
    let header ← slice? buffer 0 place
    match declaredLength header with
    | .error e => some (.error e)
    | .ok length => locateBody? limit buffer place length

/-- The place of the body of a frame that `split` takes off. It starts behind the separator and
stops where the frame does. -/
def Split.place (s : Split) : Place := ⟨s.header.length + separator.length, s.size⟩

/-- A frame that is split off is in the buffer, and what follows it is the rest of the buffer. So
`s.size` is the place at which a loop over the frames goes on. -/
theorem rest_of_split {limit : Nat} {buffer : Bytes} {s : Split}
    (h : split limit buffer = .ok s) : s.size ≤ buffer.length ∧ s.rest = buffer.drop s.size := by
  have hsize : s.size = (s.header ++ separator ++ s.body).length := by
    rw [Split.size, List.length_append, List.length_append]
  rw [hsize, eq_of_split h, List.drop_left]
  exact ⟨(List.prefix_append _ s.rest).length_le, rfl⟩

/-- A body is found by `locateBody?` without a fault where `splitBody` takes it off, and both fail
with the same error. The only sum that could overflow is the one that is checked. -/
theorem locateBody?_eq (limit length : Nat) {buffer header after : Bytes}
    (hbuffer : buffer = header ++ separator ++ after) (hfits : buffer.length ≤ sizeBound) :
    locateBody? limit buffer header.length length =
      some ((splitBody limit header after length).map Split.place) := by
  have hlen : buffer.length = header.length + separator.length + after.length := by
    rw [hbuffer, List.length_append, List.length_append]
  -- The separator is in the buffer, so a word holds the place behind it.
  have hstart : sum? header.length separator.length = some (header.length + separator.length) :=
    sum?_of_le (by omega)
  rw [locateBody?, splitBody_eq, hstart]
  simp only [Option.bind_eq_bind, Option.bind_some]
  by_cases hlimit : limit < length
  · rw [if_pos hlimit, if_pos (Or.inl hlimit)]
    rfl
  rw [if_neg hlimit]
  by_cases hbound : sizeBound < header.length + separator.length + length
  · rw [sum?_of_lt hbound, if_pos (Or.inr hbound)]
    rfl
  rw [sum?_of_le (Nat.not_lt.mp hbound), if_neg (not_or.mpr ⟨hlimit, hbound⟩)]
  simp only [hlen, Nat.add_lt_add_iff_left]
  by_cases hshort : after.length < length
  · rw [if_pos hshort, if_neg (Nat.not_le.mpr hshort), difference?_of_le (by omega)]
    rfl
  · have hlength : (after.take length).length = length :=
      List.length_take_of_le (Nat.not_lt.mp hshort)
    rw [if_neg hshort, if_pos (Nat.not_lt.mp hshort), Except.map, Split.place, Split.size, hlength]

/-- The first body is found by `locate?` without a fault where `split` takes off the first frame,
and both fail with the same error. -/
theorem locate?_eq {limit : Nat} {buffer : Bytes} (hfits : buffer.length ≤ sizeBound) :
    locate? limit buffer = some ((split limit buffer).map Split.place) := by
  rw [locate?, split, splitSeparator?]
  cases hplace : separatorPlace? buffer with
  | none => rfl
  | some place =>
    have hroom := (separatorPlace?_eq_some_iff.mp hplace).1.add_length_le
    have hheader : (buffer.take place).length = place := List.length_take_of_le (by omega)
    have hbuffer : buffer =
        buffer.take place ++ separator ++ buffer.drop (place + separator.length) :=
      eq_of_splitSeparator? (by rw [splitSeparator?, hplace, Option.map_some])
    simp only [slice?_zero (Nat.le_of_add_right_le hroom), Option.map_some, Option.bind_eq_bind,
      Option.bind_some]
    cases declaredLength (buffer.take place) with
    | error e => rfl
    | ok length =>
      -- The length of the slice is the place of the separator, as it is where the header is split
      -- off.
      have hbody := locateBody?_eq limit length hbuffer hfits
      rw [hheader] at hbody
      exact hbody

/-- The first separator is the one behind the header that is split off, so `separatorPlace?` finds
it at the length of that header. -/
theorem separatorPlace?_of_split {limit : Nat} {buffer : Bytes} {s : Split}
    (h : split limit buffer = .ok s) : separatorPlace? buffer = some s.header.length := by
  obtain ⟨hbuffer, hfirst, -⟩ := split_eq_ok_iff_of_size.mp h
  have hsep : splitSeparator? buffer = some (s.header, s.body ++ s.rest) :=
    splitSeparator?_eq_some_iff.mpr ⟨by rw [hbuffer, List.append_assoc], hfirst⟩
  simp only [splitSeparator?, Option.map_eq_some_iff, Prod.mk.injEq] at hsep
  obtain ⟨place, hplace, hheader, -⟩ := hsep
  have hroom := (separatorPlace?_eq_some_iff.mp hplace).1.add_length_le
  rw [hplace, ← hheader, List.length_take_of_le (by omega)]

/-- A body that `locate?` finds starts behind the first separator, it stops in the buffer, and it
has the length that is declared before the separator. -/
theorem place_of_locate? {limit start stop : Nat} {buffer : Bytes}
    (hfits : buffer.length ≤ sizeBound) (h : locate? limit buffer = some (.ok ⟨start, stop⟩)) :
    separator.length ≤ start ∧ start ≤ stop ∧ stop ≤ buffer.length ∧
      separatorPlace? buffer = some (start - separator.length) ∧
      declaredLength (buffer.take (start - separator.length)) = .ok (stop - start) := by
  rw [locate?_eq hfits, Option.some.injEq, map_eq_ok_iff] at h
  obtain ⟨s, hs, hplace⟩ := h
  obtain ⟨rfl, rfl⟩ := Place.mk.inj hplace
  obtain ⟨hbuffer, -, hdeclares, -⟩ := split_eq_ok_iff_of_size.mp hs
  have hheader : buffer.take s.header.length = s.header := by
    rw [hbuffer, List.append_assoc, List.append_assoc, List.take_left]
  rw [Nat.add_sub_cancel, hheader, Split.size, Nat.add_sub_cancel_left]
  exact ⟨Nat.le_add_left _ _, Nat.le_add_right _ _, (rest_of_split hs).1,
    separatorPlace?_of_split hs, declaredLength_eq_ok_iff.mpr hdeclares⟩

/-! ### The least frame -/

/-- Every frame has so many bytes: the name of the length, the colon behind it, and a separator. The
blank that writers put behind the colon is not required. -/
def leastSize : Nat := lengthName.length + 1 + separator.length

/-- A line is no longer than the text that it is a line of, whatever other lines stand around it. -/
theorem length_le_intercalate {line : List Char} {lines : List (List Char)} (h : line ∈ lines) :
    line.length ≤ (lineEnd.intercalate lines).length := by
  induction lines with
  | nil => cases h
  | cons first rest ih =>
    cases rest with
    | nil => rw [List.intercalate_singleton, List.mem_singleton.mp h]
    | cons next rest =>
      rw [List.intercalate_cons_cons, List.length_append, List.length_append]
      rcases List.mem_cons.mp h with rfl | h
      · omega
      · exact (ih h).trans (Nat.le_add_left _ _)

/-- A text has no more characters than bytes, since every character has at least one byte in UTF-8
(`Utf8.encodeChar_ne_nil`). -/
theorem length_le_flatMap_encodeChar (text : List Char) :
    text.length ≤ (text.flatMap Utf8.encodeChar).length := by
  induction text with
  | nil => exact Nat.le_refl _
  | cons c text ih =>
    have hsome := List.length_pos_iff.mpr (Utf8.encodeChar_ne_nil c)
    rw [List.flatMap_cons, List.length_append, List.length_cons]
    omega

/-- A line that gives a length is longer than `lengthName`: it has the letters of the name, of
either case, and a colon. -/
theorem LineGives.length_lt {line : List Char} {n : Nat} (h : LineGives line (some n)) :
    lengthName.length < line.length := by
  cases h with
  | length field named =>
    obtain ⟨rfl, -⟩ := field
    obtain ⟨core, ⟨⟨front, back, rfl, -⟩, -, -⟩, hcore⟩ := named
    -- A change of case keeps the number of letters.
    have hlen := congrArg List.length hcore
    rw [List.length_map, List.length_map, String.length_toList] at hlen
    simp only [List.length_append, List.length_cons]
    omega

/-- A length that is given is given by a line. The lists correspond one to one, so `given` has no
length that stands for no line. -/
theorem exists_line_of_mem {lines : List (List Char)} {given : List (Option Nat)} {n : Nat}
    (h : List.Forall₂ LineGives lines given) (hmem : some n ∈ given) :
    ∃ line ∈ lines, LineGives line (some n) := by
  induction h with
  | nil => cases hmem
  | @cons line g lines given hline _ ih =>
    rcases List.mem_cons.mp hmem with rfl | hmem
    · exact ⟨line, List.mem_cons_self, hline⟩
    · obtain ⟨later, hlater, hgives⟩ := ih hmem
      exact ⟨later, List.mem_cons_of_mem line hlater, hgives⟩

/-- A header that declares a length is longer than `lengthName`, because one of its lines is, and
characters take at least a byte each. -/
theorem Declares.length_lt {header : Bytes} {length : Nat} (h : Declares header length) :
    lengthName.length < header.length := by
  obtain ⟨text, lines, given, rfl, hlines, hgiven, hlast⟩ := h
  have hmem : some length ∈ given := List.reduceOption_mem_iff.mp (List.mem_of_getLast? hlast)
  obtain ⟨line, hline, hgives⟩ := exists_line_of_mem hgiven hmem
  calc lengthName.length < line.length := hgives.length_lt
    _ ≤ text.length := by
      rw [hlines.joined]
      exact length_le_intercalate hline
    _ ≤ (text.flatMap Utf8.encodeChar).length := length_le_flatMap_encodeChar text

/-- A frame that `split` takes off has at least `leastSize` bytes. This bounds the number of frames
that a buffer can hold. -/
theorem leastSize_le_of_split {limit : Nat} {buffer : Bytes} {s : Split}
    (h : split limit buffer = .ok s) : leastSize ≤ s.size := by
  obtain ⟨-, -, hdeclares, -⟩ := split_eq_ok_iff_of_size.mp h
  have hname := hdeclares.length_lt
  rw [leastSize, Split.size]
  omega

/-! ### The loop over the frames -/

/-- One pass over the frame behind those that were read: its document is added to `d`, and the place
behind it is the one to go on from. Every slice and every sum is checked. -/
def pass? (limit : Nat) (buffer : Bytes) (d : Decoded) : Option (Except FrameError Decoded) := do
  let remaining ← slice? buffer d.consumed buffer.length
  match ← locate? limit remaining with
  | .error e => some (.error e)
  | .ok place =>
    let body ← slice? remaining place.start place.stop
    match Json.ofBytes body with
    | .error fault => some (.error (.badDocument fault))
    | .ok document =>
      let consumed ← sum? d.consumed place.stop
      -- The log is told how many bytes the body has.
      let _size ← difference? place.stop place.start
      some (.ok ⟨d.documents ++ [document], consumed⟩)

/-- What was read after `n` passes that came to their end. A pass is made as long as bytes remain,
and it goes on from the place that the last one came to. -/
inductive Passes (limit : Nat) (buffer : Bytes) : Nat → Decoded → Prop where
  | start : Passes limit buffer 0 ⟨[], 0⟩
  | next {n : Nat} {d d' : Decoded} (before : Passes limit buffer n d)
    (remains : d.consumed < buffer.length) (pass : pass? limit buffer d = some (.ok d')) :
    Passes limit buffer (n + 1) d'

/-- A pass comes to an end without a fault of numbers or places, and it reads the frame that `split`
takes off what remains. The place it goes on from must be in the buffer, which `Passes.readsOn` says
of all places reached. -/
theorem pass?_eq {limit : Nat} {buffer : Bytes} {d : Decoded} (hfits : buffer.length ≤ sizeBound)
    (hplace : d.consumed ≤ buffer.length) :
    pass? limit buffer d = some (match split limit (buffer.drop d.consumed) with
      | .error e => .error e
      | .ok s =>
        match Json.ofBytes s.body with
        | .error fault => .error (.badDocument fault)
        | .ok document => .ok ⟨d.documents ++ [document], d.consumed + s.size⟩) := by
  have hdrop : (buffer.drop d.consumed).length = buffer.length - d.consumed := List.length_drop
  rw [pass?, slice?_length hplace, Option.bind_eq_bind, Option.bind_some,
    locate?_eq (by omega), Option.bind_eq_bind, Option.bind_some]
  cases hs : split limit (buffer.drop d.consumed) with
  | error e => rfl
  | ok s =>
    have hremaining := eq_of_split hs
    have hwithin := (rest_of_split hs).1
    have hbody : slice? (buffer.drop d.consumed) s.place.start s.place.stop = some s.body := by
      have hslice := slice?_append (s.header ++ separator) s.body s.rest
      rw [← hremaining, List.length_append] at hslice
      exact hslice
    simp only [Except.map, hbody, Option.bind_eq_bind, Option.bind_some]
    cases Json.ofBytes s.body with
    | error fault => rfl
    | ok document =>
      have hsum : sum? d.consumed s.place.stop = some (d.consumed + s.size) :=
        sum?_of_le (by show d.consumed + s.size ≤ sizeBound; omega)
      have hsize : difference? s.place.stop s.place.start = some _ :=
        difference?_of_le (Nat.le_add_right _ _)
      simp only [hsum, hsize, Option.bind_some]

/-- Frames put together in two ways come to the same, as `Decoded.append` adds lists and numbers. -/
theorem Decoded.append_assoc (d e f : Decoded) :
    (d.append e).append f = d.append (e.append f) := by
  simp only [Decoded.append, List.append_assoc, Nat.add_assoc]

/-- A pass over what remains brings the reading forward within the buffer, by a frame that `decode`
reads too, or it ends with the fault that `decode` ends with. This is all that later proofs know of
a pass. -/
theorem pass?_cases (limit : Nat) {buffer : Bytes} {d : Decoded} (hfits : buffer.length ≤ sizeBound)
    (hremains : d.consumed < buffer.length) :
    (∃ document size, pass? limit buffer d = some (.ok (d.append ⟨[document], size⟩)) ∧
        leastSize ≤ size ∧ d.consumed + size ≤ buffer.length ∧
        decode limit (buffer.drop d.consumed) =
          (decode limit (buffer.drop (d.consumed + size))).map
            (Decoded.append ⟨[document], size⟩)) ∨
      ∃ e, pass? limit buffer d = some (.error e) ∧
        decode limit (buffer.drop d.consumed) = .error e := by
  have hdrop : (buffer.drop d.consumed).length = buffer.length - d.consumed := List.length_drop
  have hne : buffer.drop d.consumed ≠ [] := List.ne_nil_of_length_pos (by omega)
  rw [pass?_eq hfits (Nat.le_of_lt hremains)]
  cases hs : split limit (buffer.drop d.consumed) with
  | error e => exact Or.inr ⟨e, rfl, decode_of_split_error hne hs⟩
  | ok s =>
    rw [decode_of_split hs]
    simp only
    cases Json.ofBytes s.body with
    | error fault => exact Or.inr ⟨.badDocument fault, rfl, rfl⟩
    | ok document =>
      obtain ⟨hwithin, hrest⟩ := rest_of_split hs
      rw [List.drop_drop] at hrest
      exact Or.inl ⟨document, s.size, rfl, leastSize_le_of_split hs, by omega, by rw [hrest]⟩

/-- What holds after `n` passes: the place reached is in the buffer, each pass came forward by
`leastSize` or more, and what remains decides what `decode` comes to. -/
structure ReadsOn (limit : Nat) (buffer : Bytes) (n : Nat) (d : Decoded) : Prop where
  within : d.consumed ≤ buffer.length
  advanced : leastSize * n ≤ d.consumed
  outcome : decode limit buffer = (decode limit (buffer.drop d.consumed)).map d.append

/-- Passes keep the reading in the buffer and on the way of `decode`. This is the invariant of the
loop: it holds at the start, and `pass?_cases` is the step. -/
theorem Passes.readsOn {limit n : Nat} {buffer : Bytes} {d : Decoded}
    (hfits : buffer.length ≤ sizeBound) (h : Passes limit buffer n d) :
    ReadsOn limit buffer n d := by
  induction h with
  | start =>
    refine ⟨Nat.zero_le _, Nat.le_refl _, ?_⟩
    rw [List.drop_zero]
    cases decode limit buffer <;> simp [Except.map, Decoded.append]
  | @next n d d' before hremains hpass ih =>
    rcases pass?_cases limit hfits hremains with
      ⟨document, size, hread, hsize, hwithin, hdecode⟩ | ⟨e, hfault, -⟩
    · rw [hread] at hpass
      cases hpass
      refine ⟨hwithin, ?_, ?_⟩
      · rw [Nat.mul_succ]
        exact Nat.add_le_add ih.advanced hsize
      -- What the earlier passes left to decode is now the frame of this one and what is behind it.
      · rw [ih.outcome, hdecode]
        show _ = (decode limit (buffer.drop (d.consumed + size))).map _
        cases decode limit (buffer.drop (d.consumed + size)) with
        | error e => rfl
        | ok rest => exact congrArg Except.ok (d.append_assoc _ rest).symm
    · rw [hfault] at hpass
      cases hpass

/-- The loop is over: all bytes are read and decoded, or the next pass ends with the fault that
`decode` ends with. In both cases the loop has come to what `decode` gives. -/
def Ends (limit : Nat) (buffer : Bytes) (d : Decoded) : Prop :=
  (d.consumed = buffer.length ∧ decode limit buffer = .ok d) ∨
    ∃ e, d.consumed < buffer.length ∧ pass? limit buffer d = some (.error e) ∧
      decode limit buffer = .error e

/-- The loop comes to its end from wherever it stands, since every pass comes forward and the buffer
has an end. -/
theorem Passes.exists_ends {limit n : Nat} {buffer : Bytes} {d : Decoded}
    (hfits : buffer.length ≤ sizeBound) (h : Passes limit buffer n d) :
    ∃ n d, Passes limit buffer n d ∧ Ends limit buffer d := by
  -- Every pass leaves fewer bytes.
  induction hleft : buffer.length - d.consumed using Nat.strongRecOn generalizing n d with
  | ind left ih =>
    have hon := h.readsOn hfits
    rcases Nat.lt_or_eq_of_le hon.within with hremains | hall
    · rcases pass?_cases limit hfits hremains with
        ⟨document, size, hread, hsize, -, -⟩ | ⟨e, hfault, hdecode⟩
      · have hleast : 0 < leastSize := by decide +kernel
        have hforward : (d.append ⟨[document], size⟩).consumed = d.consumed + size := rfl
        exact ih _ (by omega) (h.next hremains hread) rfl
      · refine ⟨n, d, h, Or.inr ⟨e, hremains, hfault, ?_⟩⟩
        rw [hon.outcome, hdecode]
        rfl
    · refine ⟨n, d, h, Or.inl ⟨hall, ?_⟩⟩
      rw [hon.outcome, hall, List.drop_length, decode_nil]
      exact congrArg Except.ok (by simp [Decoded.append])

/-- Take a buffer that fits into memory. The place of its first body is found without a fault of
numbers or places, and it is that of the frame that is split off. It starts behind the first
separator and stops in the buffer, and between the two stand as many bytes as the header declares.

In the loop over the frames the place reached never leaves the buffer. A pass never comes to a fault
of numbers or places either; it ends with a fault of the frame, or it brings the reading forward by
at least four bytes. So no more than a quarter as many passes come to their end as there are bytes.
Then the loop ends, with what decoding comes to. If it ends with a fault, the pass that finds it can
be counted as well, unless there are fewer than four bytes in all. -/
theorem places_of_buffer (limit : Nat) {buffer : Bytes} (hfits : buffer.length ≤ sizeBound) :
    locate? limit buffer = some ((split limit buffer).map Split.place) ∧
      (∀ start stop, locate? limit buffer = some (.ok ⟨start, stop⟩) →
        4 ≤ start ∧ start ≤ stop ∧ stop ≤ buffer.length ∧ SeparatorAt buffer (start - 4) ∧
          (∀ m < start - 4, ¬ SeparatorAt buffer m) ∧
          declaredLength (buffer.take (start - 4)) = .ok (stop - start)) ∧
      (∀ n d, Passes limit buffer n d →
        d.consumed ≤ buffer.length ∧ 4 * n ≤ d.consumed ∧
          (d.consumed < buffer.length → ∃ outcome, pass? limit buffer d = some outcome ∧
            ∀ d', outcome = .ok d' → d.consumed + 4 ≤ d'.consumed)) ∧
      ∃ n d, Passes limit buffer n d ∧ n ≤ buffer.length / 4 ∧
        (d.consumed < buffer.length → 4 ≤ buffer.length → n + 1 ≤ buffer.length / 4) ∧
        Ends limit buffer d := by
  have hleast : leastSize = 19 := by decide +kernel
  refine ⟨locate?_eq hfits, fun start stop hfound => ?_, fun n d hpasses => ?_, ?_⟩
  · obtain ⟨hfour, hstart, hstop, hplace, hlength⟩ := place_of_locate? hfits hfound
    obtain ⟨hat, hfirst⟩ := separatorPlace?_eq_some_iff.mp hplace
    exact ⟨hfour, hstart, hstop, hat, hfirst, hlength⟩
  · have hon := hpasses.readsOn hfits
    have hadvanced := hon.advanced
    rw [hleast] at hadvanced
    refine ⟨hon.within, by omega, fun hremains => ?_⟩
    rcases pass?_cases limit hfits hremains with
      ⟨document, size, hread, hsize, -, -⟩ | ⟨e, hfault, -⟩
    · refine ⟨_, hread, ?_⟩
      rintro d' ⟨⟩
      have hfour : 4 ≤ size := by omega
      exact Nat.add_le_add_left hfour d.consumed
    · exact ⟨_, hfault, nofun⟩
  · have hstart : Passes limit buffer 0 ⟨[], 0⟩ := .start
    -- The count of the passes is bounded by the bytes that they came forward.
    obtain ⟨n, d, hpasses, hends⟩ := hstart.exists_ends hfits
    have hon := hpasses.readsOn hfits
    have hwithin := hon.within
    have hadvanced := hon.advanced
    rw [hleast] at hadvanced
    exact ⟨n, d, hpasses, by omega, fun hremains hfour => by omega, hends⟩

/-- A whole frame, and a header that declares as many bytes as a word can count, under the largest
limit there is. -/
private def beyondMemory : Bytes :=
  Utf8.encode "Content-Length: 2\r\n\r\n[]Content-Length: 18446744073709551615\r\n\r\n[]"

/-- The first body of `beyondMemory` stands at its place. In the second frame the sum of the place
where the body starts and its length would overflow, and the pass over it ends with a fault of the
frame. -/
theorem places_of_beyondMemory :
    beyondMemory.length ≤ sizeBound ∧
      locate? sizeBound beyondMemory = some (.ok ⟨21, 23⟩) ∧
      SeparatorAt beyondMemory 17 ∧ (∀ m < 17, ¬ SeparatorAt beyondMemory m) ∧
      declaredLength (beyondMemory.take 17) = .ok 2 ∧
      ∃ n d, Passes sizeBound beyondMemory n d ∧ n + 1 ≤ 16 ∧
        pass? sizeBound beyondMemory d = some (.error (.tooLarge sizeBound sizeBound)) := by
  have hfits : beyondMemory.length ≤ sizeBound := by decide +kernel
  have hfound : locate? sizeBound beyondMemory = some (.ok ⟨21, 23⟩) := by decide +kernel
  have hdecode : decode sizeBound beyondMemory = .error (.tooLarge sizeBound sizeBound) := by
    decide +kernel
  obtain ⟨-, hplaces, -, n, d, hpasses, -, hcount, hends⟩ := places_of_buffer sizeBound hfits
  obtain ⟨-, -, -, hat, hfirst, hlength⟩ := hplaces 21 23 hfound
  refine ⟨hfits, hfound, hat, hfirst, hlength, n, d, hpasses, ?_⟩
  rcases hends with ⟨-, hall⟩ | ⟨e, hremains, hfault, hthis⟩
  · rw [hdecode] at hall
    cases hall
  · rw [hdecode, Except.error.injEq] at hthis
    rw [← hthis] at hfault
    exact ⟨hcount hremains (by decide +kernel), hfault⟩

end LspSession.Frame
