import LspSession.Frame.Header

/-!
# `LspSession.Frame.Decode`: reading frames

`split` takes the first frame off a buffer: the header runs to the first separator, and the body
has the number of bytes that the header declares. A declared length above the limit is refused
before any of the body is looked at. `decode` reads frames to the end of the buffer and answers
either all of their documents or the first error; a buffer that stops inside a frame gives no
document at all. A frame is never empty, so every step leaves a shorter buffer.
-/

set_option autoImplicit false

namespace LspSession.Frame

/-- Looks for the first separator. `place` bytes stand before the ones to look at. -/
def separatorPlaceFrom (place : Nat) : Bytes → Option Nat
  | [] => none
  | 0x0D :: 0x0A :: 0x0D :: 0x0A :: _ => some place
  | _ :: rest => separatorPlaceFrom (place + 1) rest

/-- The number of bytes before the first `separator`, if there is one. -/
def separatorPlace? (buffer : Bytes) : Option Nat := separatorPlaceFrom 0 buffer

/-- What stands before and after the first `separator`. The header is taken to end there, even if it
is no header. -/
def splitSeparator? (buffer : Bytes) : Option (Bytes × Bytes) :=
  (separatorPlace? buffer).map fun place =>
    (buffer.take place, buffer.drop (place + separator.length))

/-- A frame at the front of a buffer, and what follows it. The `separator` is in none of the parts.
-/
structure Split where
  header : Bytes
  body : Bytes
  rest : Bytes
  deriving DecidableEq, Repr

/-- The number of bytes of a frame, with those of its `separator`. -/
def Split.size (s : Split) : Nat := s.header.length + separator.length + s.body.length

/-- The length that the bytes of a header declare by `contentLength`, which have to be text for
that. -/
def declaredLength (header : Bytes) : Except FrameError Nat :=
  match Utf8.decodeChars header with
  | .error fault => .error (.headerNotText fault)
  | .ok text => contentLength text

/-- The body of a declared length after a header, if the limit admits it. A frame beyond `sizeBound`
is refused like a body beyond the limit, and the two numbers of `incomplete` count the header as
well. -/
def splitBody (limit : Nat) (header after : Bytes) (length : Nat) : Except FrameError Split :=
  let start := header.length + separator.length
  if limit < length ∨ sizeBound < start + length then .error (.tooLarge length limit)
  else
    -- Only as many bytes are counted as the body needs, however many follow.
    let found := Bytes.lengthUpTo length after
    if found = length then .ok ⟨header, after.take length, after.drop length⟩
    else .error (.incomplete (some (start + length)) (start + found))

/-- The first frame of a buffer, as a `Split`. Faults of the header are final, and without a
separator the frame is incomplete however long the buffer is. -/
def split (limit : Nat) (buffer : Bytes) : Except FrameError Split :=
  match splitSeparator? buffer with
  -- Even what can no longer become a header is waited for.
  | none => .error (.incomplete none buffer.length)
  | some (header, after) =>
    match declaredLength header with
    | .error e => .error e
    | .ok length => splitBody limit header after length

/-! ### Nothing is lost -/

/-- At the place that is found stands the separator, so the buffer is what is before it, the
separator, and what is behind. -/
theorem eq_of_separatorPlaceFrom {place found : Nat} {buffer : Bytes}
    (h : separatorPlaceFrom place buffer = some found) :
    ∃ n, found = place + n ∧
      buffer = buffer.take n ++ separator ++ buffer.drop (n + separator.length) := by
  fun_induction separatorPlaceFrom place buffer with
  | case1 => cases h
  | case2 place rest =>
    cases h
    exact ⟨0, by simp [separator]⟩
  | case3 place b rest hno ih =>
    obtain ⟨n, rfl, hn⟩ := ih h
    refine ⟨n + 1, by omega, ?_⟩
    -- A byte that no separator starts at is one more in front of it.
    rw [Nat.add_right_comm, List.take_succ_cons, List.drop_succ_cons, List.cons_append,
      List.cons_append, ← hn]

/-- The `separator` stands between what was split, and nothing is lost. -/
theorem eq_of_splitSeparator? {buffer header after : Bytes}
    (h : splitSeparator? buffer = some (header, after)) :
    buffer = header ++ separator ++ after := by
  simp only [splitSeparator?, separatorPlace?, Option.map_eq_some_iff, Prod.mk.injEq] at h
  obtain ⟨place, hplace, rfl, rfl⟩ := h
  obtain ⟨n, rfl, hn⟩ := eq_of_separatorPlaceFrom hplace
  simpa using hn

/-- A frame that `split` takes off and what follows it make up the buffer. -/
theorem eq_of_split {limit : Nat} {buffer : Bytes} {s : Split} (h : split limit buffer = .ok s) :
    buffer = s.header ++ separator ++ s.body ++ s.rest := by
  unfold split at h
  split at h
  · cases h
  · next header after hsep =>
    split at h
    · cases h
    · next length _ =>
      unfold splitBody at h
      simp only at h
      split at h
      · cases h
      · split at h
        · cases h
          rw [eq_of_splitSeparator? hsep]
          simp [List.take_append_drop]
        · cases h

/-- What follows a frame is shorter than the buffer, by the separator at least. That is why `decode`
ends. -/
theorem length_rest_lt {limit : Nat} {buffer : Bytes} {s : Split}
    (h : split limit buffer = .ok s) : s.rest.length < buffer.length := by
  have := congrArg List.length (eq_of_split h)
  simp only [List.length_append, separator, List.length_cons, List.length_nil] at this
  omega

/-! ### All frames of a buffer -/

/-- The documents of frames, in their order, and the number of bytes that the frames take,
`consumed`. -/
structure Decoded where
  documents : List Json
  consumed : Nat
  deriving DecidableEq

/-- The documents of every frame of a buffer, each body at most `limit` bytes. The first error is
the result if there is one, and then the documents before it are not given. -/
def decode (limit : Nat) (buffer : Bytes) : Except FrameError Decoded :=
  if buffer = [] then .ok ⟨[], 0⟩
  else
    match _h : split limit buffer with
    | .error e => .error e
    | .ok s =>
      match Json.ofBytes s.body with
      | .error fault => .error (.badDocument fault)
      | .ok document =>
        -- A fault behind this frame takes its document with it.
        match decode limit s.rest with
        | .error e => .error e
        | .ok d => .ok ⟨document :: d.documents, s.size + d.consumed⟩
termination_by buffer.length
decreasing_by exact length_rest_lt _h

/-- An empty buffer has no frames, which is no error. -/
@[simp] theorem decode_nil (limit : Nat) : decode limit [] = .ok ⟨[], 0⟩ := by
  rw [decode]
  simp

/-- Decoding that succeeds uses every byte, so `consumed` is the length of the buffer. -/
theorem consumed_of_decode {limit : Nat} {buffer : Bytes} {d : Decoded}
    (h : decode limit buffer = .ok d) : d.consumed = buffer.length := by
  fun_induction decode limit buffer generalizing d with
  | case1 =>
    cases h
    rfl
  | case2 => cases h
  | case3 => cases h
  | case4 => cases h
  | case5 buffer hne s hs document hd d' hd' ih =>
    cases h
    have hlen := congrArg List.length (eq_of_split hs)
    simp only [List.length_append] at hlen
    simp only [Split.size, ih hd', hlen]

end LspSession.Frame
