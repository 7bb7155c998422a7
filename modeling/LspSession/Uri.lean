import LspSession.Text.Utf8
import LspSession.Text.Decimal

/-!
# `LspSession.Uri`: URI references

A URI reference is read from the bytes of a text into its five components. The text itself is kept
as it was written, so `Uri` is a text together with the proof that it can be read. A text that
cannot be read has a `Fault`: a character out of place, a percent sign without two hexadecimal
digits, or an address in brackets that is not one, each with the index of the byte where it
stands. The components are read from left to right, each over the longest run of characters that
it may hold, and the first fault on the way is the one reported.
-/

set_option autoImplicit false

namespace LspSession

namespace Uri

/-! ### Characters -/

/-- ASCII letters. -/
def isLetter (b : UInt8) : Bool := (0x41 ≤ b && b ≤ 0x5A) || (0x61 ≤ b && b ≤ 0x7A)

/-- ASCII digits. -/
def isDigit (b : UInt8) : Bool := 0x30 ≤ b && b ≤ 0x39

/-- Hexadecimal digits of either case. -/
def isHexDigit (b : UInt8) : Bool :=
  isDigit b || (0x41 ≤ b && b ≤ 0x46) || (0x61 ≤ b && b ≤ 0x66)

/-- Whether a byte is one of the ASCII characters of a text, which lists them. -/
def isOneOf (text : String) (b : UInt8) : Bool := text.toList.any fun c => c.toNat == b.toNat

/-- Letters, digits and the four marks that mean nothing anywhere. They stand for themselves in
every component. -/
def isUnreserved (b : UInt8) : Bool := isLetter b || isDigit b || isOneOf "-._~" b

/-- Characters that may divide the inside of a component, if its scheme says so. -/
def isSubDelimiter (b : UInt8) : Bool := isOneOf "!$&'()*+,;=" b

/-- Characters of a scheme. The first of them has to be a letter. -/
def isSchemeChar (b : UInt8) : Bool := isLetter b || isDigit b || isOneOf "+-." b

/-- Characters of a registered name, apart from what is percent-encoded. -/
def isNameChar (b : UInt8) : Bool := isUnreserved b || isSubDelimiter b

/-- Characters of user information, and of a host with a number, which cannot be told apart before
what follows them is seen. -/
def isAuthorityChar (b : UInt8) : Bool := isNameChar b || isOneOf ":" b

/-- Characters of the first segment of a path that follows no scheme. With a colon it would be read
as one. -/
def isFirstSegmentChar (b : UInt8) : Bool := isNameChar b || isOneOf "@" b

/-- Characters of a path, the slashes between its segments among them. -/
def isPathChar (b : UInt8) : Bool := isNameChar b || isOneOf ":@/" b

/-- Characters of a query and of a fragment. -/
def isQueryChar (b : UInt8) : Bool := isPathChar b || isOneOf "?" b

/-! ### Addresses in brackets -/

/-- The pieces of a byte sequence between the occurrences of a byte. There is always one. -/
def splitOn (separator : UInt8) : Bytes → List Bytes
  | [] => [[]]
  | b :: rest =>
    match splitOn separator rest with
    | [] => [[b]]
    | piece :: pieces => if b = separator then [] :: piece :: pieces else (b :: piece) :: pieces

/-- A group of an address: one to four hexadecimal digits. -/
def isGroup (piece : Bytes) : Bool :=
  1 ≤ piece.length && piece.length ≤ 4 && piece.all isHexDigit

/-- A number up to 255 without leading zeros, as it stands in a dotted quad. -/
def isOctet (piece : Bytes) : Bool :=
  piece.all isDigit &&
    match piece with
    | [_] => true
    -- A zero may only stand alone, and the case before has taken that.
    | 0x30 :: _ => false
    | [_, _] => true
    | [a, b, c] =>
      100 * (a.toNat - 0x30) + 10 * (b.toNat - 0x30) + (c.toNat - 0x30) ≤ 255
    | _ => false

/-- Four numbers between points, which stand for the last two groups of an address. -/
def isDottedQuad (piece : Bytes) : Bool :=
  let octets := splitOn 0x2E piece
  octets.length == 4 && octets.all isOctet

/-- How many groups a run of groups counts for. A dotted quad, where it may stand at the end, counts
for two. -/
def groupCount? (quadAllowed : Bool) : List Bytes → Option Nat
  | [] => some 0
  | [last] =>
    if isGroup last then some 1 else if quadAllowed && isDottedQuad last then some 2 else none
  | piece :: rest => if isGroup piece then (groupCount? quadAllowed rest).map (· + 1) else none

/-- The groups between colons, none for an empty text, as one is on either side of a double colon.
-/
def groups : Bytes → List Bytes
  | [] => []
  | text => splitOn 0x3A text

/-- What stands before and after the first double colon, if there is one. -/
def splitEllipsis? : Bytes → Option (Bytes × Bytes)
  | 0x3A :: 0x3A :: rest => some ([], rest)
  | b :: rest => (splitEllipsis? rest).map fun (before, after) => (b :: before, after)
  | [] => none

/-- Whether a text is an address of eight groups, of which one run of zero groups may be left out at
a double colon. A dotted quad can stand at its end only. -/
def isAddress (text : Bytes) : Bool :=
  match splitEllipsis? text with
  | none => groupCount? true (groups text) == some 8
  | some (before, after) =>
    match groupCount? false (groups before), groupCount? true (groups after) with
    | some m, some n => m + n ≤ 7
    | _, _ => false

/-! ### Reading -/

/-- Why a text is no URI reference, with the index of the byte at fault. -/
inductive Fault where
  | unexpectedCharacter (index : Nat)
  | badPercent (index : Nat)
  | badAddress (index : Nat)
  deriving DecidableEq, Repr

/-- The sentence that names a fault, with the index from the front of the whole text. -/
def Fault.message : Fault → String
  | .unexpectedCharacter i => "unexpected character at index " ++ Decimal.render i
  | .badPercent i => "invalid percent-encoded octet at index " ++ Decimal.render i
  | .badAddress i => "invalid IP literal at index " ++ Decimal.render i

/-- The longest run of allowed characters and percent-encoded bytes from `index` on, and what
follows it. A percent sign without two digits is at fault wherever it stands. -/
def scan (allowed : UInt8 → Bool) (index : Nat) : Bytes → Except Fault (Bytes × Bytes)
  | [] => .ok ([], [])
  | 0x25 :: a :: b :: rest =>
    if isHexDigit a && isHexDigit b then
      (scan allowed (index + 3) rest).map fun (taken, rest) => (0x25 :: a :: b :: taken, rest)
    else .error (.badPercent index)
  | c :: rest =>
    if c = 0x25 then .error (.badPercent index)
    else if allowed c then
      (scan allowed (index + 1) rest).map fun (taken, rest) => (c :: taken, rest)
    else .ok ([], c :: rest)

/-- The components of a URI reference, each as written, without the characters that set it apart. A
component that is there and empty is not one that is missing. -/
structure Components where
  scheme : Option Bytes
  authority : Option Bytes
  path : Bytes
  query : Option Bytes
  fragment : Option Bytes
  deriving DecidableEq, Repr

/-- The number of a host, if a colon starts one. Any digits will do, and none. -/
def readHostNumber : Bytes → Bytes × Bytes
  | 0x3A :: rest => (0x3A :: rest.takeWhile isDigit, rest.dropWhile isDigit)
  | rest => ([], rest)

/-- An address between brackets, if a bracket opens one. It is at fault as a whole, at its opening
bracket. -/
def readAddress (index : Nat) : Bytes → Except Fault (Bytes × Bytes)
  | 0x5B :: rest =>
    let inside := rest.takeWhile (· ≠ 0x5D)
    match rest.dropWhile (· ≠ 0x5D) with
    | close :: after =>
      if isAddress inside then .ok (0x5B :: inside ++ [close], after)
      else .error (.badAddress index)
    | [] => .error (.badAddress index)
  | rest => .ok ([], rest)

/-- The index of the last byte that is no digit, which is the one reported. -/
def lastNonDigit? (index : Nat) : Bytes → Option Nat
  | [] => none
  | b :: rest =>
    (lastNonDigit? (index + 1) rest).or (if isDigit b then none else some index)

/-- Checks a host, with or without a number, that was read as one run: it holds at most one colon,
and only digits follow it. -/
def checkHost (index : Nat) (run : Bytes) : Except Fault Unit :=
  let host := run.takeWhile (· ≠ 0x3A)
  match run.dropWhile (· ≠ 0x3A) with
  | [] => .ok ()
  | _ :: number =>
    if number.contains 0x3A then .error (.unexpectedCharacter (index + host.length))
    else match lastNonDigit? (index + host.length + 1) number with
      | some i => .error (.unexpectedCharacter i)
      | none => .ok ()

/-- An authority, read from just after its two slashes. Whether what is read first is user
information or a host shows at what follows it. -/
def readAuthority (index : Nat) (text : Bytes) : Except Fault (Bytes × Bytes) := do
  let (run, rest) ← scan isAuthorityChar index text
  match run, rest with
  -- An at sign shows that the run was user information.
  | run, 0x40 :: rest =>
    let hostStart := index + run.length + 1
    let (host, rest) ← match rest with
      | 0x5B :: _ => readAddress hostStart rest
      | _ => scan isNameChar hostStart rest
    let (number, rest) := readHostNumber rest
    return (run ++ 0x40 :: host ++ number, rest)
  -- Nothing was taken, so either a bracket opens an address or the host is empty.
  | [], rest =>
    let (host, rest) ← readAddress index rest
    let (number, rest) := if host = [] then ([], rest) else readHostNumber rest
    return (host ++ number, rest)
  | run, rest =>
    checkHost index run
    return (run, rest)

/-- A component that starts with a mark, if the mark is there. Queries and fragments hold the same
characters. -/
def readMarked (mark : UInt8) (index : Nat) : Bytes → Except Fault (Option Bytes × Bytes)
  | b :: rest =>
    if b = mark then (scan isQueryChar (index + 1) rest).map fun (t, rest) => (some t, rest)
    else .ok (none, b :: rest)
  | [] => .ok (none, [])

/-- Query and fragment, which end the text. What is left behind them starts with an unexpected
character. -/
def readTail (index : Nat) (text : Bytes) : Except Fault (Option Bytes × Option Bytes) := do
  let (query, rest) ← readMarked 0x3F index text
  let index := index + (text.length - rest.length)
  let (fragment, left) ← readMarked 0x23 index rest
  match left with
  | [] => return (query, fragment)
  | _ => .error (.unexpectedCharacter (index + (rest.length - left.length)))

/-- The path after an authority, which is empty or starts with a slash, and all that follows. -/
def readAfterAuthority (scheme : Option Bytes) (index : Nat) (text : Bytes) :
    Except Fault Components := do
  let (authority, rest) ← readAuthority index text
  let start := index + authority.length
  let (path, rest) ← scan isPathChar start rest
  if path ≠ [] ∧ path.head? ≠ some 0x2F then .error (.unexpectedCharacter start)
  else
    let (query, fragment) ← readTail (start + path.length) rest
    return ⟨scheme, some authority, path, query, fragment⟩

/-- The path after a scheme without an authority, and all that follows. -/
def readAfterScheme (scheme : Bytes) (index : Nat) (text : Bytes) : Except Fault Components := do
  let (path, rest) ← scan isPathChar index text
  let (query, fragment) ← readTail (index + path.length) rest
  return ⟨some scheme, none, path, query, fragment⟩

/-- A path that follows neither scheme nor authority, whose first segment holds no colon, and all
that follows. `start` is the part of it that was taken for a scheme. -/
def readRelative (start : Bytes) (text : Bytes) : Except Fault Components := do
  let (segment, rest) ← scan isFirstSegmentChar start.length text
  let index := start.length + segment.length
  if rest.head? = some 0x3A then .error (.unexpectedCharacter index)
  else
    let (more, rest) ← scan isPathChar index rest
    let (query, fragment) ← readTail (index + more.length) rest
    return ⟨none, none, start ++ segment ++ more, query, fragment⟩

/-- Reads a URI reference into its `Components`. What stands before a colon is a scheme if nothing
else can come first. -/
def components (text : Bytes) : Except Fault Components :=
  let start := text.takeWhile isSchemeChar
  match start, text.dropWhile isSchemeChar with
  | scheme, 0x3A :: rest =>
    if (scheme.head?.map isLetter).getD false then
      match rest with
      | 0x2F :: 0x2F :: rest => readAfterAuthority (some scheme) (scheme.length + 3) rest
      | _ => readAfterScheme scheme (scheme.length + 1) rest
    else .error (.unexpectedCharacter 0)
  | [], 0x2F :: 0x2F :: rest => readAfterAuthority none 2 rest
  -- No colon follows, so what was taken for a scheme starts a path.
  | start, rest => readRelative start rest

/-- Whether a text is a URI reference, by the bytes of it in UTF-8. -/
def isReference (text : String) : Bool := (components (Utf8.encode text)).isOk

/-- The bytes that a component stands for: a percent sign and two hexadecimal digits are one byte.
-/
def percentDecode : Bytes → Bytes
  | 0x25 :: a :: b :: rest =>
    -- Setting the bit `0x20` makes a capital letter a small one.
    let value (d : UInt8) : UInt8 := if isDigit d then d - 0x30 else (d ||| 0x20) - 0x57
    (value a * 16 + value b) :: percentDecode rest
  | c :: rest => c :: percentDecode rest
  | [] => []

end Uri

/-- A URI reference, kept as it was written together with the proof that it is one. -/
structure Uri where
  text : String
  valid : Uri.isReference text = true
  deriving DecidableEq

namespace Uri

/-- Reads a URI reference from its text. Of its components nothing is kept but that there are any.
-/
def ofText (text : String) : Except Fault Uri :=
  match h : components (Utf8.encode text) with
  | .ok _ => .ok ⟨text, by rw [isReference, h]; rfl⟩
  | .error e => .error e

/-- A text that was read is kept as it was written, so writing a `Uri` gives back what was read. -/
theorem text_of_ofText {text : String} {u : Uri} (h : ofText text = .ok u) : u.text = text := by
  unfold ofText at h
  split at h
  · cases h
    rfl
  · cases h

end Uri

end LspSession
