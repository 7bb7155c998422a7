import LspSession.Json.Basic
import LspSession.Json.Fault

/-!
# `LspSession.Json.Reader`: reading a document from bytes

The reader takes one byte at a time. Its state is a `Reading`: a stack of the containers that wait
for a value, outermost last, and a `Mode` that says what may come next. `Reading.step` answers
nothing for a byte that no document continues with, so the first wrong byte of an input makes it
`Fault.malformed`, and `Reading.wrong` names what is wrong. An input that no byte makes wrong but
that stops before its document is complete is `Fault.truncated`.

Three faults are noticed later than their first byte. A number is known only when the next byte
ends it, and is refused when it is too large. The four bytes of an escaped code unit are checked
together. A string may hold any bytes from the space on, and is checked to be UTF-8, together with
the characters its escapes stand for, at its closing quote.
-/

set_option autoImplicit false

namespace LspSession

/-! ### Numbers under way -/

/-- Which part of a number was read last. For `Scan.step` it decides what may come next and whether
the number may end. -/
inductive Numeral.Phase where
  /-- The minus sign. -/
  | sign
  /-- A zero that starts the number. -/
  | leadingZero
  /-- A whole digit. -/
  | whole
  /-- The point. -/
  | point
  /-- A fraction digit. -/
  | fraction
  /-- The letter of the exponent. -/
  | exponentMark
  /-- The sign of the exponent. -/
  | exponentSign
  /-- An exponent digit. -/
  | exponent
  deriving DecidableEq, Repr

/-- A number under way. Digits are kept newest first, and `exponent` is of use only in the phases of
the exponent. -/
structure Numeral.Scan where
  phase : Numeral.Phase
  negative : Bool
  whole : List Nat
  fraction : List Nat
  exponentNegative : Bool
  exponent : List Nat
  deriving DecidableEq, Repr

namespace Numeral

/-- What a byte means to a number under way, by `Scan.step`. A number has no mark at its end, so it
ends with the first byte that does not belong to it. -/
inductive Progress where
  /-- The byte belongs to the number. -/
  | more (scan : Scan)
  /-- The number ended before the byte. -/
  | ended
  /-- No number continues this way. -/
  | bad

/-- The value of an ASCII digit byte. -/
def digitOf? (b : UInt8) : Option Nat :=
  if 0x30 ≤ b ∧ b ≤ 0x39 then some (b.toNat - 0x30) else none

/-- The `Scan` of a number that starts with a byte, the minus sign or a digit. A plus sign starts
none. -/
def Scan.start? (b : UInt8) : Option Scan :=
  if b = 0x2D then some ⟨.sign, true, [], [], false, []⟩
  else (digitOf? b).map fun d =>
    ⟨if d = 0 then .leadingZero else .whole, false, [d], [], false, []⟩

/-- The next byte of a number whose whole part may end here: the point, the letter of the exponent,
or one that does not belong to it. -/
def Scan.leaveWhole (n : Scan) (b : UInt8) : Progress :=
  if b = 0x2E then .more { n with phase := .point }
  else if b = 0x65 ∨ b = 0x45 then .more { n with phase := .exponentMark }
  else .ended

/-- The next byte of a number under way. After a `leadingZero` no digit belongs to the number, and
the point and the letter of the exponent have to be followed by digits. -/
def Scan.step (n : Scan) (b : UInt8) : Progress :=
  match n.phase, digitOf? b with
  | .sign, some 0 => .more { n with phase := .leadingZero, whole := [0] }
  | .sign, some d => .more { n with phase := .whole, whole := [d] }
  | .sign, none => .bad
  | .leadingZero, _ => n.leaveWhole b
  | .whole, some d => .more { n with whole := d :: n.whole }
  | .whole, none => n.leaveWhole b
  | .point, some d => .more { n with phase := .fraction, fraction := [d] }
  | .point, none => .bad
  | .fraction, some d => .more { n with fraction := d :: n.fraction }
  | .fraction, none =>
    if b = 0x65 ∨ b = 0x45 then .more { n with phase := .exponentMark } else .ended
  | .exponentMark, some d => .more { n with phase := .exponent, exponent := [d] }
  | .exponentMark, none =>
    if b = 0x2B then .more { n with phase := .exponentSign }
    else if b = 0x2D then .more { n with phase := .exponentSign, exponentNegative := true }
    else .bad
  | .exponentSign, some d => .more { n with phase := .exponent, exponent := [d] }
  | .exponentSign, none => .bad
  | .exponent, some d => .more { n with exponent := d :: n.exponent }
  | .exponent, none => .ended

/-- The `Numeral` that was read, if it may end here: not behind a sign, the point, or the letter of
the exponent. -/
def Scan.numeral? (n : Scan) : Option Numeral :=
  match n.phase with
  | .leadingZero | .whole | .fraction =>
    some ⟨n.negative, n.whole.reverse, n.fraction.reverse, none⟩
  | .exponent =>
    some ⟨n.negative, n.whole.reverse, n.fraction.reverse,
      some (n.exponentNegative, n.exponent.reverse)⟩
  | _ => none

/-- The greatest exponent that can be counted with, that of a signed integer of 32 bits. -/
def greatestCount : Nat := Nat.pow 2 31 - 1

/-- How many digits stand behind the first one that takes a number above `greatestCount`. `value` is
what the digits in front make up. -/
def digitsBeyond (value : Nat) : List Nat → Nat
  | [] => 0
  | d :: ds =>
    if greatestCount < value * 10 + d then ds.length else digitsBeyond (value * 10 + d) ds

/-- By `digitsBeyond`, how many digits of the exponent are not read because those before are too
many. They only matter for the place of the fault. -/
def Scan.surplus (n : Scan) : Nat := digitsBeyond 0 n.exponent.reverse

end Numeral

namespace Json

/-! ### Strings under way -/

/-- What may follow inside a string. Outside of `plain` an escape is under way. -/
inductive TextMode where
  /-- A character, an escape or the closing quote. -/
  | plain
  /-- The letter of an escape. -/
  | escape
  /-- One of the four digits of a code unit, kept newest first, after a first half of a pair or
  on its own. -/
  | unit (high : Option Nat) (digits : List UInt8)
  /-- The backslash of the second half of a pair. -/
  | pairMark (high : Nat)
  /-- The letter of the second half of a pair. -/
  | pairLetter (high : Nat)

/-- The value of a hexadecimal digit byte of either case. -/
def hexValue? (b : UInt8) : Option Nat :=
  if 0x30 ≤ b ∧ b ≤ 0x39 then some (b.toNat - 0x30)
  else if 0x41 ≤ b ∧ b ≤ 0x46 then some (b.toNat - 0x37)
  else if 0x61 ≤ b ∧ b ≤ 0x66 then some (b.toNat - 0x57)
  else none

/-- The code unit that hexadecimal digit bytes spell, newest digit first, by `hexValue?`. Four of
them give a unit of 16 bits. -/
def unitValue? : List UInt8 → Option Nat
  | [] => some 0
  | b :: rest => do
    let high ← unitValue? rest
    let low ← hexValue? b
    return high * 16 + low

/-- The byte that a one-letter escape stands for. A solidus may be escaped and need not be. -/
def simpleEscape? (b : UInt8) : Option UInt8 :=
  if b = 0x22 ∨ b = 0x5C ∨ b = 0x2F then some b
  else if b = 0x62 then some 0x08
  else if b = 0x66 then some 0x0C
  else if b = 0x6E then some 0x0A
  else if b = 0x72 then some 0x0D
  else if b = 0x74 then some 0x09
  else none

/-- What a byte does to a string under way, by `stepText`. -/
inductive TextProgress where
  /-- The string goes on. -/
  | more (mode : TextMode) (bytes : Bytes)
  /-- The quote closes the string. -/
  | closed
  /-- No string continues this way. -/
  | bad

/-- A finished code unit: a character, the first half of a pair (`pairMark`), or a fault. Behind a
first half only a second half will do, and a second half stands only there. -/
def finishUnit (high : Option Nat) (unit : Nat) (bytes : Bytes) : TextProgress :=
  let push (code : Nat) : TextProgress :=
    .more .plain ((Utf8.encodeChar (Char.ofNat code)).reverse ++ bytes)
  let isLow : Bool := 0xDC00 ≤ unit && unit ≤ 0xDFFF
  match high with
  | none =>
    if isLow then .bad
    else if 0xD800 ≤ unit ∧ unit ≤ 0xDBFF then .more (.pairMark unit) bytes
    else push unit
  -- Both halves carry ten bits of the code above `0xFFFF`.
  | some h => if isLow then push (0x10000 + (h - 0xD800) * 0x400 + (unit - 0xDC00)) else .bad

/-- The next byte of a string under way, whose bytes so far are kept newest first. The digits of a
code unit are checked with the last of the four. -/
def stepText (mode : TextMode) (bytes : Bytes) (b : UInt8) : TextProgress :=
  match mode with
  | .plain =>
    if b = 0x22 then .closed
    else if b = 0x5C then .more .escape bytes
    else if b < 0x20 then .bad
    else .more .plain (b :: bytes)
  | .escape =>
    if b = 0x75 then .more (.unit none []) bytes
    else match simpleEscape? b with
      | some c => .more .plain (c :: bytes)
      | none => .bad
  | .unit high digits =>
    -- Any bytes are collected here, and checked once there are four.
    if digits.length < 3 then .more (.unit high (b :: digits)) bytes
    else match unitValue? (b :: digits) with
      | some unit => finishUnit high unit bytes
      | none => .bad
  | .pairMark high => if b = 0x5C then .more (.pairLetter high) bytes else .bad
  | .pairLetter high => if b = 0x75 then .more (.unit (some high) []) bytes else .bad

/-! ### Documents under way -/

/-- A container that waits for a value, with what has been read of it. -/
inductive Open where
  /-- An array with the items read, newest first. -/
  | array (items : List Json)
  /-- An object with the members read, newest first, and the name of the one to come. -/
  | object (members : List (String × Json)) (name : String)

/-- What a string under way is for. A name belongs to the object whose members are given. -/
inductive Role where
  /-- It is a value. -/
  | value
  /-- It names the next of the given members. -/
  | name (members : List (String × Json))

/-- What may come next. The innermost container stands in the mode while it waits for something
other than a value, and on the stack as an `Open` while it waits for one. -/
inductive Mode where
  | value
  /-- The first item of an array, or its end. -/
  | firstItem
  /-- The comma after an item, or the end of the array. -/
  | afterItem (items : List Json)
  /-- The first name of an object, or its end. -/
  | firstName
  /-- A further name. -/
  | nextName (members : List (String × Json))
  /-- The colon after a name. -/
  | colon (members : List (String × Json)) (name : String)
  /-- The comma after a member, or the end of the object. -/
  | afterMember (members : List (String × Json))
  /-- The rest of a word. -/
  | word (rest : Bytes) (value : Json)
  | number (scan : Numeral.Scan)
  | text (role : Role) (mode : TextMode) (bytes : Bytes)
  /-- Blanks after the document. -/
  | done (document : Json)

/-- A document under way: the `stack` of containers that wait for a value, innermost first, and the
`mode` that says what may come next. -/
structure Reading where
  stack : List Open
  mode : Mode

/-- How many containers may be open at once. A container more is refused by `Reading.start?` at its
opening bracket. -/
def depthLimit : Nat := 127

/-- Whether a byte may stand between the parts of a document: a space, a tab, a line feed or a
carriage return. -/
def isSpace (b : UInt8) : Bool := b == 0x20 || b == 0x09 || b == 0x0A || b == 0x0D

/-- A finished value goes to the container that waits for it. Without one it is the document, and
the reading is `done`. -/
def Reading.complete (stack : List Open) (value : Json) : Reading :=
  match stack with
  | [] => ⟨[], .done value⟩
  | .array items :: rest => ⟨rest, .afterItem (value :: items)⟩
  | .object members name :: rest => ⟨rest, .afterMember ((name, value) :: members)⟩

/-- The first byte of a value, which tells its kind. A container may be opened only as long as there
are fewer than `depthLimit` open. -/
def Reading.start? (stack : List Open) (b : UInt8) : Option Reading :=
  if b = 0x6E then some ⟨stack, .word [0x75, 0x6C, 0x6C] .null⟩
  else if b = 0x74 then some ⟨stack, .word [0x72, 0x75, 0x65] (.bool true)⟩
  else if b = 0x66 then some ⟨stack, .word [0x61, 0x6C, 0x73, 0x65] (.bool false)⟩
  else if b = 0x22 then some ⟨stack, .text .value .plain []⟩
  -- A container is not on the stack before its first value, so the limit is on those around it.
  else if b = 0x5B then if stack.length < depthLimit then some ⟨stack, .firstItem⟩ else none
  else if b = 0x7B then if stack.length < depthLimit then some ⟨stack, .firstName⟩ else none
  else (Numeral.Scan.start? b).map fun n => ⟨stack, .number n⟩

/-- A byte after a value, or at another place where no value is under way. Blanks (`isSpace`) are
passed over in every such place. -/
def Reading.stepBetween (s : Reading) (b : UInt8) : Option Reading :=
  if isSpace b then some s
  else match s.mode with
    | .value => start? s.stack b
    | .firstItem =>
      if b = 0x5D then some (complete s.stack (.array [])) else start? (.array [] :: s.stack) b
    | .afterItem items =>
      if b = 0x2C then some ⟨.array items :: s.stack, .value⟩
      else if b = 0x5D then some (complete s.stack (.array items.reverse))
      else none
    | .firstName =>
      if b = 0x7D then some (complete s.stack (.object []))
      else if b = 0x22 then some ⟨s.stack, .text (.name []) .plain []⟩
      else none
    | .nextName members =>
      if b = 0x22 then some ⟨s.stack, .text (.name members) .plain []⟩ else none
    | .colon members name =>
      if b = 0x3A then some ⟨.object members name :: s.stack, .value⟩ else none
    | .afterMember members =>
      if b = 0x2C then some ⟨s.stack, .nextName members⟩
      -- Of members with one name the last counts, so they are put in their order first.
      else if b = 0x7D then some (complete s.stack (ofMembers members.reverse))
      else none
    | _ => none

/-- The next byte of a document, unless no document continues with it. A byte that ends a number is
then read by `stepBetween` as one that follows it. -/
def Reading.step (s : Reading) (b : UInt8) : Option Reading :=
  match s.mode with
  | .word rest value =>
    match rest with
    | [] => none
    | [c] => if b = c then some (complete s.stack value) else none
    | c :: more => if b = c then some ⟨s.stack, .word more value⟩ else none
  | .number n =>
    match n.step b with
    | .more n => some ⟨s.stack, .number n⟩
    | .ended => do
      -- The number is known only now, and it may turn out too large.
      let value ← (← n.numeral?).value?
      stepBetween (complete s.stack (.number value)) b
    | .bad => none
  | .text role mode bytes =>
    match stepText mode bytes b with
    | .more mode bytes => some ⟨s.stack, .text role mode bytes⟩
    | .closed => do
      let text ← Utf8.decode? bytes.reverse
      return match role with
        | .value => complete s.stack (.string text)
        | .name members => ⟨s.stack, .colon members text⟩
    | .bad => none
  | _ => stepBetween s b

/-! ### Faults -/

/-- What is wrong with a byte that `stepText` refuses. A quote is wrong only if the string that it
closes is not UTF-8. -/
def TextMode.wrong (mode : TextMode) (b : UInt8) : Wrong :=
  match mode with
  | .plain => if b = 0x22 then .notUnicode else .controlCharacter
  | .escape => .badEscape
  | .unit _ digits => if (unitValue? (b :: digits)).isSome then .loneHalf else .badEscape
  | .pairMark _ | .pairLetter _ => .noSecondHalf

/-- What is wrong with a byte that starts no value, or with a container more than `depthLimit`. -/
def Wrong.atStart (b : UInt8) : Wrong := if b = 0x5B ∨ b = 0x7B then .tooDeep else .noValue

/-- What is wrong with a byte that `Reading.stepBetween` refuses. A closing bracket behind a comma
has a sentence of its own. -/
def Reading.wrongBetween (s : Reading) (b : UInt8) : Wrong :=
  match s.mode, s.stack with
  | .value, .array _ :: _ => if b = 0x5D then .trailingComma else .atStart b
  | .afterItem _, _ => .noItemEnd
  | .firstName, _ => .nameNotText
  | .nextName _, _ => if b = 0x7D then .trailingComma else .nameNotText
  | .colon .., _ => .noColon
  | .afterMember _, _ => .noMemberEnd
  | .done _, _ => .trailingCharacters
  | _, _ => .atStart b

/-- What is wrong with a byte that `Reading.step` refuses, and how many bytes are left besides those
behind it. A number that is too large is noticed in front of the byte that ends it, or at the digit
that makes its exponent too large to count with. -/
def Reading.wrong (s : Reading) (b : UInt8) : Wrong × Nat :=
  match s.mode with
  | .word .. => (.unknownWord, 0)
  | .text _ mode _ => (mode.wrong b, 0)
  | .number n =>
    match n.step b, n.numeral?.bind Numeral.value? with
    | .ended, none => (.numberTooLarge, n.surplus + 1)
    | .ended, some value =>
      -- A digit behind a leading zero is a bad number, though the number has ended.
      if n.phase = .leadingZero ∧ (Numeral.digitOf? b).isSome then (.badNumber, 0)
      else ((complete s.stack (.number value)).wrongBetween b, 0)
    | _, _ => (.badNumber, 0)
  | _ => (s.wrongBetween b, 0)

/-- What is still open where an input stops. Where a name or a value has to come, that is what is
missed. -/
def Mode.unclosed : Mode → Unclosed
  | .firstItem | .afterItem _ => .array
  | .firstName | .colon .. | .afterMember _ => .object
  | .text .. => .text
  | _ => .value

/-- The document at the end of the input, or what is still open then (`Mode.unclosed`). A number may
be completed by the end alone. -/
def Reading.finish (s : Reading) : Except Stop Json :=
  match s.mode with
  | .done document => .ok document
  | .number n =>
    match n.numeral? with
    | none => .error (.short .value)
    | some numeral =>
      match numeral.value?, s.stack with
      | none, _ => .error (.wrong .numberTooLarge n.surplus)
      | some value, [] => .ok (.number value)
      -- The number is whole, so what is missing is the end of its container.
      | some value, stack => .error (.short (complete stack (.number value)).mode.unclosed)
  | mode => .error (.short mode.unclosed)

/-- Reads on through the bytes that are left, and stops at the first that `Reading.step` refuses. -/
def Reading.run (s : Reading) : Bytes → Except Stop Json
  | [] => s.finish
  | b :: rest =>
    match s.step b with
    | some s => run s rest
    | none => .error (.wrong (s.wrong b).1 (rest.length + (s.wrong b).2))

/-- Reads a document with `Reading.run` that is all of the input, blanks around it apart. -/
def ofBytes (bytes : Bytes) : Except Fault Json :=
  (Reading.run ⟨[], .value⟩ bytes).mapError (Stop.fault bytes)

/-- Reads a document from its text, by the bytes of the text (`Utf8.encode`). -/
def ofText (text : String) : Except Fault Json := ofBytes (Utf8.encode text)

end Json

end LspSession
