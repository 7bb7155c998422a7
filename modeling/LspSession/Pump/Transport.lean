import LspSession.IoError
import LspSession.Text.Utf8

/-!
# `LspSession.Pump.Transport`: where a pump reads and writes

A transport carries bytes from and to a server. A read gives at most `readSize` bytes, and never
none: it ends, fails or waits instead. A write takes all of its bytes or fails. Whoever reads says
beforehand how long nothing may come before the read counts as waiting. Every transport says how
much is left to read, by a measure that each successful read lowers and nothing else raises, so that
whoever reads until something happens comes to an end.

`Stream` is a transport in memory. Its input is a list of chunks, of which a read gives the first,
or the front of it; an empty chunk reads as the end of input. After the last chunk the input ends
or fails, so its reader never waits. Its output may have room for a limited number of bytes; a write
beyond it fails after taking what fits.
-/

set_option autoImplicit false

namespace LspSession

/-- The most bytes that one read gives, whatever the `Transport` has at hand. -/
def readSize : Nat := 4096

/-- What one read gives. Bytes are at least one and at most `readSize`; `ended` says that the other
side has closed, and `waiting` only that nothing has come within the time given. -/
inductive ReadResult where
  | bytes (bytes : Bytes)
  /-- Nothing will come any more. -/
  | ended
  | failed (error : IoError)
  /-- Nothing has come yet. -/
  | waiting
  deriving DecidableEq, Repr

/-- Something that carries bytes from and to a server. `remaining` is no promise that so much will
come: it is a bound on the reads that succeed, so that waiting for an event ends. -/
class Transport (σ : Type) where
  read : σ → ReadResult × σ
  write : σ → Bytes → Except IoError Unit × σ
  /-- Starts a wait of at most so many nanoseconds. -/
  within : Nat → σ → σ
  /-- How much is left to read. -/
  remaining : σ → Nat
  remaining_read : ∀ {s s' : σ} {bytes : Bytes}, read s = (.bytes bytes, s') →
    remaining s' < remaining s
  remaining_write : ∀ (s : σ) (bytes : Bytes), remaining (write s bytes).2 ≤ remaining s
  remaining_within : ∀ (limit : Nat) (s : σ), remaining (within limit s) ≤ remaining s

/-- A transport in memory. The chunks of its `input` are what single reads give, so it tells not
only what the server writes but also in which pieces that arrives. -/
structure Stream where
  /-- The chunks that are left to read. -/
  input : List Bytes
  /-- How reading fails after the last chunk, if it does not end. -/
  readError : Option String
  /-- The bytes written so far. -/
  written : Bytes
  /-- The number of bytes that can still be written, if that is limited. -/
  room : Option Nat
  deriving DecidableEq, Repr

namespace Stream

/-- Reads from a stream: the first chunk of its `input`, or the front of one that is longer than
`readSize`. An empty chunk is passed over and reads as the end. -/
def read (s : Stream) : ReadResult × Stream :=
  match s.input with
  | [] =>
    match s.readError with
    | some text => (.failed (.custom text), s)
    | none => (.ended, s)
  | [] :: rest => (.ended, { s with input := rest })
  | chunk :: rest =>
    -- Only as much of the chunk is counted as tells whether it is too long.
    if readSize < Bytes.lengthUpTo (readSize + 1) chunk then
      (.bytes (chunk.take readSize), { s with input := chunk.drop readSize :: rest })
    else (.bytes chunk, { s with input := rest })

/-- Writes to a stream. Where the `room` does not suffice, it takes what fits and fails. -/
def write (s : Stream) (bytes : Bytes) : Except IoError Unit × Stream :=
  match s.room with
  | none => (.ok (), { s with written := s.written ++ bytes })
  | some n =>
    let taken := bytes.take n
    let s := { s with written := s.written ++ taken, room := some (n - taken.length) }
    if bytes.length ≤ n then (.ok (), s) else (.error (.custom "writer failed"), s)

/-- The number of bytes that are left to read in the `input`. -/
def unread (s : Stream) : Nat := s.input.flatten.length

/-- The number of bytes and chunks that are left to read. Chunks count as well, because a read of
the last bytes of one takes it away. -/
def remaining (s : Stream) : Nat := s.input.flatten.length + s.input.length

/-- A read that gives bytes leaves less to read: the chunk is gone, or shorter by `readSize` bytes.
-/
theorem remaining_read {s s' : Stream} {bytes : Bytes} (h : s.read = (.bytes bytes, s')) :
    s'.remaining < s.remaining := by
  unfold read at h
  split at h
  · split at h <;> cases h
  · cases h
  · next chunk rest _ hs =>
    split at h
    · next hlong =>
      rw [Bytes.lengthUpTo_eq] at hlong
      cases h
      simp only [remaining, hs, List.flatten_cons, List.length_append, List.length_cons,
        List.length_drop, readSize] at *
      omega
    · cases h
      simp only [remaining, hs, List.flatten_cons, List.length_append, List.length_cons]
      omega

/-- A write leaves the `input` alone. -/
theorem remaining_write (s : Stream) (bytes : Bytes) :
    (s.write bytes).2.remaining = s.remaining := by
  unfold write
  split
  · rfl
  · simp only
    split <;> rfl

instance : Transport Stream where
  read := read
  write := write
  within _ s := s
  remaining := remaining
  remaining_read := remaining_read
  remaining_write s bytes := Nat.le_of_eq (remaining_write s bytes)
  remaining_within _ s := Nat.le_refl s.remaining

end Stream

end LspSession
