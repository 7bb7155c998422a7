import LspSession.Host.Shell.Fraction

/-!
# `LspSession.Host.Shell.Format`: escapes and formats

`unescape` reads the backslash sequences of a text. `Format.print` writes arguments by a format,
whose directives start with a percent sign: strings, numbers in three bases or with a fraction, and
characters, with a least width and flags for the side and the filling. The format is used again as
long as arguments are left, and an argument that is missing counts as empty or as zero.

The shell itself knows fewer backslash sequences than programs do, and keeps fewer digits of a
fraction. What is true of programs is called wide.
-/

set_option autoImplicit false

namespace LspSession.Shell

/-- The character of a backslash sequence of one letter. -/
def escapeOf? : Char → Option Char
  | 'a' => some '\x07'
  | 'b' => some '\x08'
  | 'e' => some '\x1b'
  | 'f' => some '\x0c'
  | 'n' => some '\n'
  | 'r' => some '\r'
  | 't' => some '\t'
  | 'v' => some '\x0b'
  | '\\' => some '\\'
  | _ => none

/-- The character with a code in octal digits. -/
def ofOctal (digits : Text) : Char := Char.ofNat (valueIn 8 digits % 256)

/-- Reads what follows a backslash: a letter with a meaning or a code of up to three octal digits or
two hexadecimal ones. The answer is what that stands for and what follows it. -/
def escape? (wide : Bool) (text : Text) : Option (Char × Text) :=
  let code := (text.take 3).takeWhile fun c => (digitIn? 8 c).isSome
  match text with
  | c :: rest =>
    let hexadecimal := (rest.take 2).takeWhile fun c => (digitIn? 16 c).isSome
    match escapeOf? c with
    | some d => some (d, rest)
    | none =>
      if wide ∧ c = 'x' ∧ hexadecimal ≠ [] then
        some (Char.ofNat (valueIn 16 hexadecimal), rest.drop hexadecimal.length)
      else if code = [] then none
      else some (ofOctal code, text.drop code.length)
  | [] => none

/-- Reads the backslash sequences of a text in at most so many steps, behind a text that is given in
reverse. A code has a zero in front of its digits. The answer says too whether the text asks for an
end. -/
def unescapeFrom (wide : Bool) : Nat → Text → Text → Text × Bool
  | 0, before, _ => (before.reverse, false)
  | _ + 1, before, [] => (before.reverse, false)
  | steps + 1, before, '\\' :: rest =>
    let found := match rest with
      | '0' :: digits =>
        let code := (digits.take 3).takeWhile fun c => (digitIn? 8 c).isSome
        some (ofOctal code, digits.drop code.length)
      | rest => escape? wide rest
    match rest, found with
    | 'c' :: _, _ => (before.reverse, true)
    | _, some (c, rest) => unescapeFrom wide steps (c :: before) rest
    | rest, none => unescapeFrom wide steps ('\\' :: before) rest
  | steps + 1, before, c :: rest => unescapeFrom wide steps (c :: before) rest

/-- Reads the backslash sequences of a text. The answer says too whether the text asks for an
end. -/
def unescape (wide : Bool) (text : Text) : Text × Bool :=
  unescapeFrom wide (text.length + 1) [] text

namespace Format

/-- A number in a directive. -/
inductive Quantity where
  | fixed (n : Nat)
  /-- The next argument. -/
  | argument
  deriving DecidableEq, Repr

/-- How an argument is written. -/
structure Directive where
  /-- The directive as it stands in the format. -/
  text : Text
  /-- The flags. -/
  flags : List Char
  width : Quantity
  /-- The digits after a point, if there is one. -/
  precision : Option Quantity
  conversion : Char
  deriving DecidableEq, Repr

/-- A piece of a format. -/
inductive Piece where
  | literal (c : Char)
  | directive (d : Directive)
  /-- A directive that the format ends in the middle of. -/
  | unfinished (text : Text)
  /-- The end, whatever is left. -/
  | stop
  deriving DecidableEq, Repr

/-- The characters that are flags. -/
def flags : List Char := ['-', '+', ' ', '#', '0']

/-- The quantity at the start of a text, and what follows it. -/
def quantity (text : Text) : Quantity × Text :=
  match text with
  | '*' :: rest => (.argument, rest)
  | text =>
    let digits := text.takeWhile isDigit
    (.fixed (valueIn 10 digits), text.drop digits.length)

/-- The directive behind a percent sign, and what follows it. Programs know letters for the size of
a number, which mean nothing. -/
def directive? (wide : Bool) (whole : Text) : Option (Directive × Text) :=
  let found := whole.takeWhile flags.contains
  let (width, text) := quantity (whole.drop found.length)
  let (precision, text) := match text with
    | '.' :: rest =>
      let (precision, rest) := quantity rest
      (some precision, rest)
    | text => (none, text)
  let text := if wide then text.dropWhile ['h', 'l', 'j', 'z', 't', 'L'].contains else text
  match text with
  | conversion :: rest =>
    let length := whole.length - rest.length
    some (⟨'%' :: whole.take length, found, width, precision, conversion⟩, rest)
  | [] => none

/-- The pieces of a format, found in at most so many steps, behind pieces that are given in
reverse. -/
def piecesFrom (wide : Bool) : Nat → List Piece → Text → List Piece
  | 0, before, _ => before.reverse
  | _ + 1, before, [] => before.reverse
  | steps + 1, before, '\\' :: rest =>
    match wide, rest, escape? wide rest with
    | true, 'c' :: _, _ => (.stop :: before).reverse
    | true, '"' :: rest, _ => piecesFrom wide steps (.literal '"' :: before) rest
    | _, _, some (c, rest) => piecesFrom wide steps (.literal c :: before) rest
    | _, rest, none => piecesFrom wide steps (.literal '\\' :: before) rest
  | steps + 1, before, '%' :: '%' :: rest => piecesFrom wide steps (.literal '%' :: before) rest
  | steps + 1, before, '%' :: rest =>
    match directive? wide rest with
    | some (d, rest) => piecesFrom wide steps (.directive d :: before) rest
    | none => (.unfinished ('%' :: rest) :: before).reverse
  | steps + 1, before, c :: rest => piecesFrom wide steps (.literal c :: before) rest

/-- The pieces of a format. -/
def pieces (wide : Bool) (format : Text) : List Piece :=
  piecesFrom wide (format.length + 1) [] format

/-- What is wrong with a format or its arguments. -/
inductive Complaint where
  /-- An argument is no number. -/
  | notNumeric (argument : Text)
  /-- Only the front of an argument is a number. -/
  | notWhole (argument : Text)
  | outOfRange (argument : Text)
  | invalid (directive : Text)
  | unfinished (directive : Text)
  deriving DecidableEq, Repr

/-- What has been written by a format, and what is left to write. -/
structure Progress where
  /-- What has been written, in reverse. -/
  written : List Text
  arguments : List Text
  /-- What is wrong, last first. -/
  complaints : List Complaint
  /-- Whether an argument asked for the end. -/
  ended : Bool

/-- The code of the character that an argument stands for, if it does so. -/
def code? : Text → Option Nat
  | '\'' :: rest | '"' :: rest => some ((rest.head?.map Char.toNat).getD 0)
  | _ => none

/-- The number that an argument stands for, and what is wrong with it. -/
def number (argument : Text) : Int × Option Complaint :=
  match argument with
  | '\'' :: rest | '"' :: rest => (((rest.head?.map Char.toNat).getD 0 : Nat), none)
  | [] => (0, none)
  | _ =>
    let text := argument.dropWhile isBlank
    let digits := match text with
      | '-' :: rest | '+' :: rest => rest
      | text => text
    if !(digits.head?.any isDigit) then
      (0, some (.notNumeric argument))
    else
      let (n, rest) := spanNumber digits
      let value : Int := if text.head? = some '-' then -n else n
      let complaint :=
        if rest ≠ [] then some (.notWhole argument)
        else if clamp value ≠ value then some (.outOfRange argument)
        else none
      (clamp value, complaint)

/-- The number with a fraction that an argument stands for, and what is wrong with it. -/
def fraction (wide : Bool) (argument : Text) : Fraction × Option Complaint :=
  match code? argument with
  | some n => (.ofInt n, none)
  | none =>
    match Fraction.read? (if wide then 64 else 53) argument with
    | some (x, []) => (x, none)
    | some (x, _) => (x, some (.notWhole argument))
    | none => (.zero, if argument = [] then none else some (.notNumeric argument))

/-- Fills a text up to a width. -/
def fill (d : Directive) (width : Int) (zeros : Bool) (sign body : Text) : Text :=
  let missing := width.natAbs - (sign.length + body.length)
  if d.flags.contains '-' ∨ width < 0 then sign ++ body ++ List.replicate missing ' '
  else if zeros && d.flags.contains '0' then sign ++ List.replicate missing '0' ++ body
  else List.replicate missing ' ' ++ sign ++ body

/-- A whole number written by a directive. -/
def writeNumber (d : Directive) (width : Int) (precision : Option Nat) (base : Nat) (n : Int) :
    Text :=
  let digits := if n = 0 ∧ precision = some 0 then [] else Nat.toDigits base n.natAbs
  let digits := List.replicate (precision.getD 0 - digits.length) '0' ++ digits
  let sign :=
    if n < 0 then ['-']
    else if base ≠ 10 then
      if d.flags.contains '#' ∧ n ≠ 0 then (if base = 16 then ['0', 'x'] else ['0']) else []
    else if d.flags.contains '+' then ['+']
    else if d.flags.contains ' ' then [' ']
    else []
  fill d width precision.isNone sign digits

/-- A text written by a directive. -/
def writeText (d : Directive) (width : Int) (precision : Option Nat) (text : Text) : Text :=
  fill d width false [] (match precision with
    | some most => text.take most
    | none => text)

/-- Takes the number that a quantity stands for. -/
def takeQuantity (p : Progress) : Quantity → Int × Progress
  | .fixed n => (n, p)
  | .argument =>
    let (n, complaint) := number (p.arguments.headD [])
    (n, { p with
      arguments := p.arguments.tail
      complaints := complaint.toList ++ p.complaints })

/-- A number with a fraction written by a directive. -/
def writeFraction (d : Directive) (width : Int) (precision : Option Nat) (x : Fraction) : Text :=
  let sign :=
    if x.negative then ['-']
    else if d.flags.contains '+' then ['+']
    else if d.flags.contains ' ' then [' ']
    else []
  let body := Fraction.body d.conversion (precision.getD 6) (d.flags.contains '#') x.magnitude
  let body := if d.conversion.isUpper then body.map Char.toUpper else body
  let isRatio := match x.magnitude with
    | .ratio .. => true
    | _ => false
  fill d width isRatio sign body

/-- Writes the next argument by a directive. -/
def Directive.write (wide : Bool) (d : Directive) (p : Progress) : Progress :=
  let (width, p) := takeQuantity p d.width
  let (precision, p) := match d.precision with
    | some quantity =>
      let (n, p) := takeQuantity p quantity
      (if n < 0 then none else some n.toNat, p)
    | none => (none, p)
  let argument := p.arguments.headD []
  let p := { p with arguments := p.arguments.tail }
  let add (text : Text) : Progress := { p with written := text :: p.written }
  let addNumber (write : Int → Text) : Progress :=
    let (n, complaint) := number argument
    { p with written := write n :: p.written, complaints := complaint.toList ++ p.complaints }
  let bits (n : Int) : Int := n % 18446744073709551616
  match d.conversion with
  | 's' => add (writeText d width precision argument)
  | 'b' =>
    let (text, ended) := unescape wide argument
    { add (writeText d width precision text) with ended := ended }
  | 'c' => add (writeText d width none [argument.headD '\x00'])
  | 'd' | 'i' => addNumber (writeNumber d width precision 10)
  | 'u' => addNumber fun n => writeNumber { d with flags := d.flags.filter fun c => c != '+' } width
      precision 10 (bits n)
  | 'x' => addNumber fun n => writeNumber d width precision 16 (bits n)
  | 'X' => addNumber fun n => (writeNumber d width precision 16 (bits n)).map Char.toUpper
  | 'o' => addNumber fun n => writeNumber d width precision 8 (bits n)
  | 'f' | 'F' | 'e' | 'E' | 'g' | 'G' =>
    let (x, complaint) := fraction wide argument
    { p with
      written := writeFraction d width precision x :: p.written
      complaints := complaint.toList ++ p.complaints }
  | _ => { p with complaints := .invalid d.text :: p.complaints, ended := true }

/-- Goes through a format once. -/
def once (wide : Bool) : List Piece → Progress → Progress
  | [], p => p
  | piece :: rest, p =>
    if p.ended then p
    else
      match piece with
      | .literal c => once wide rest { p with written := [c] :: p.written }
      | .directive d => once wide rest (d.write wide p)
      | .unfinished text =>
        { p with complaints := .unfinished text :: p.complaints, ended := true }
      | .stop => { p with ended := true }

/-- Goes through a format at most so many times, until no arguments are left. -/
def times (wide : Bool) (format : List Piece) : Nat → Progress → Progress
  | 0, p => p
  | most + 1, p =>
    let after := once wide format p
    if after.ended || after.arguments.isEmpty || after.arguments.length == p.arguments.length then
      after
    else times wide format most after

/-- Writes arguments by a format. The answer holds what is wrong with them too. -/
def print (wide : Bool) (format : Text) (arguments : List Text) : Text × List Complaint :=
  let p := times wide (pieces wide format) (arguments.length + 1) ⟨[], arguments, [], false⟩
  (p.written.reverse.flatten, p.complaints.reverse)

end Format

end LspSession.Shell
