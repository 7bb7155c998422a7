/-!
# `LspSession.Text.Utf8`: characters as bytes and back

`encode` writes each character of a text as its one to four bytes. `decode` reads bytes one at a
time and either gives the text or the place where the bytes stop being UTF-8. A place is a
`Fault`: the index of the first byte of the character that cannot be read, and how many bytes
of it are certainly wrong. A character that the input cuts short has no such length, because
more bytes could still finish it.

Reading keeps at most one unfinished character. It remembers the bits seen so far, the number of
bytes still owed, and the range the next byte must lie in. The range is narrower than that of a
plain continuation byte only after the four lead bytes whose characters would otherwise have a
shorter spelling, be a surrogate or exceed the last code point.
-/

set_option autoImplicit false

namespace LspSession

/-- Raw bytes, as a transport delivers them. -/
abbrev Bytes := List UInt8

namespace Bytes

/-- Adds the number of bytes to a count. No more than so many of them are looked at, so it costs no
more for a long list. -/
def countUpTo (count : Nat) : Nat → Bytes → Nat
  | 0, _ => count
  | _ + 1, [] => count
  | most + 1, _ :: rest => countUpTo (count + 1) most rest

/-- What is counted is the length, or as much of it as was to be looked at. -/
theorem countUpTo_eq (count most : Nat) (bytes : Bytes) :
    countUpTo count most bytes = count + min most bytes.length := by
  induction bytes generalizing count most with
  | nil => cases most <;> simp [countUpTo]
  | cons b rest ih =>
    cases most with
    | zero => simp [countUpTo]
    | succ most =>
      simp only [countUpTo, ih, List.length_cons]
      omega

/-- The number of bytes, or so many if there are more. It answers whether there are enough without
going through all of them. -/
def lengthUpTo (most : Nat) (bytes : Bytes) : Nat := countUpTo 0 most bytes

/-- The bounded length as the minimum of the bound and `List.length`. Proofs go on with that. -/
@[simp] theorem lengthUpTo_eq (most : Nat) (bytes : Bytes) :
    lengthUpTo most bytes = min most bytes.length := by
  simp [lengthUpTo, countUpTo_eq]

end Bytes

namespace Utf8

/-! ### Writing -/

/-- The bytes of one character, as few of them as its code needs. -/
def encodeChar (c : Char) : Bytes :=
  let n := c.toNat
  let tail (k : Nat) : UInt8 := UInt8.ofNat (0x80 + k % 0x40)
  if n < 0x80 then [UInt8.ofNat n]
  else if n < 0x800 then [UInt8.ofNat (0xC0 + n / 0x40), tail n]
  else if n < 0x10000 then [UInt8.ofNat (0xE0 + n / 0x1000), tail (n / 0x40), tail n]
  else [UInt8.ofNat (0xF0 + n / 0x40000), tail (n / 0x1000), tail (n / 0x40), tail n]

/-- The bytes of a text, those of one character after those of the other. -/
def encode (s : String) : Bytes := s.toList.flatMap encodeChar

/-! ### Reading -/

/-- Where a byte sequence stops being UTF-8: every byte before `index` belongs to a whole
character. `length` counts the bytes from there that no continuation can repair, and is absent
when the input ends inside a character. -/
structure Fault where
  index : Nat
  length : Option Nat
  deriving DecidableEq, Repr

/-- The sentence that names a fault. One at the end of the input says that the character is
incomplete. -/
def Fault.message (e : Fault) : String :=
  match e.length with
  | some n => "invalid utf-8 sequence of " ++ toString n ++ " bytes from index " ++ toString e.index
  | none => "incomplete utf-8 byte sequence from index " ++ toString e.index

/-- A character under way: its bits so far, the bytes read, the bytes still owed after the next
one, and the range of the next one. -/
structure Unfinished where
  bits : Nat
  read : Nat
  owed : Nat
  low : Nat
  high : Nat
  deriving DecidableEq, Repr

/-- What a lead byte above `0x7F` starts, if it can start a character at all. -/
def Unfinished.ofLead (b : Nat) : Option Unfinished :=
  -- `0xC0` and `0xC1` would lead codes that need one byte only.
  if 0xC2 ≤ b ∧ b ≤ 0xDF then some ⟨b - 0xC0, 1, 0, 0x80, 0xBF⟩
  else if b = 0xE0 then some ⟨0, 1, 1, 0xA0, 0xBF⟩
  else if b = 0xED then some ⟨0xD, 1, 1, 0x80, 0x9F⟩
  else if 0xE1 ≤ b ∧ b ≤ 0xEF then some ⟨b - 0xE0, 1, 1, 0x80, 0xBF⟩
  else if b = 0xF0 then some ⟨0, 1, 2, 0x90, 0xBF⟩
  else if 0xF1 ≤ b ∧ b ≤ 0xF3 then some ⟨b - 0xF0, 1, 2, 0x80, 0xBF⟩
  else if b = 0xF4 then some ⟨4, 1, 2, 0x80, 0x8F⟩
  else none

/-- Reads on from a character under way. `start` is the index of that character, or of the next
one when none is under way, and `done` holds the characters read, newest first. -/
def decodeFrom : Option Unfinished → Nat → List Char → Bytes → Except Fault (List Char)
  | none, _, done, [] => .ok done.reverse
  | some _, start, _, [] => .error ⟨start, none⟩
  | none, start, done, b :: rest =>
    if b < 0x80 then decodeFrom none (start + 1) (Char.ofNat b.toNat :: done) rest
    else match Unfinished.ofLead b.toNat with
      | some u => decodeFrom (some u) start done rest
      | none => .error ⟨start, some 1⟩
  | some u, start, done, b :: rest =>
    if u.low ≤ b.toNat ∧ b.toNat ≤ u.high then
      let bits := u.bits * 0x40 + (b.toNat - 0x80)
      match u.owed with
      | 0 => decodeFrom none (start + u.read + 1) (Char.ofNat bits :: done) rest
      | owed + 1 => decodeFrom (some ⟨bits, u.read + 1, owed, 0x80, 0xBF⟩) start done rest
    -- The byte itself is not counted, since it may start a character.
    else .error ⟨start, some u.read⟩

/-- The characters that a byte sequence spells, or the first place where it spells none. -/
def decodeChars (bytes : Bytes) : Except Fault (List Char) := decodeFrom none 0 [] bytes

/-- The text that a byte sequence spells, or why it spells none. -/
def decode (bytes : Bytes) : Except Fault String := (decodeChars bytes).map String.ofList

/-- The text that a byte sequence spells, if it spells one. The fault is left out. -/
def decode? (bytes : Bytes) : Option String := (decode bytes).toOption

/-! ### Small facts -/

/-- The empty text is written as no bytes. -/
@[simp] theorem encode_empty : encode "" = [] := rfl

/-- Texts one behind the other are written as their bytes one behind the other. -/
theorem encode_append (s t : String) : encode (s ++ t) = encode s ++ encode t := by
  simp [encode, String.toList_append]

end Utf8

end LspSession
