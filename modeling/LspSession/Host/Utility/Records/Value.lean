import LspSession.Host.Shell.Format

/-!
# `LspSession.Host.Utility.Records.Value`: what scripts over records calculate with

A value is a number, a text, or a text that was read and counts as a number if it looks like one.
Numbers are exact ratios that are rounded after every operation to what a machine keeps of them, or
they are infinite or undefined.
-/

set_option autoImplicit false

namespace LspSession.Utility.Records

open Shell

/-! ### Numbers -/

/-- The binary digits that a number keeps. -/
def precision : Nat := 53

/-- The number that is nearest to a ratio. A whole number has the denominator one. -/
def ofRatio (num : Int) (den : Nat) : Fraction :=
  let size := num.natAbs
  if size % den = 0 ∧ size / den < 9007199254740992 then ⟨num < 0, .ratio (size / den) 1⟩
  else
    match Fraction.keep precision size den with
    | .ratio n d =>
      let g := Nat.gcd n d
      ⟨num < 0, if Nat.pow 2 1024 * d ≤ n then .infinite else .ratio (n / g) (d / g)⟩
    | other => ⟨num < 0, other⟩

/-- No number at all. -/
def undefined : Fraction := ⟨true, .undefined⟩

/-- One. -/
def one : Fraction := .ofInt 1

/-- A natural number. -/
def ofCount (n : Nat) : Fraction := ofRatio n 1

/-- The numerator and the denominator of a number that is finite. -/
def ratio? (x : Fraction) : Option (Int × Nat) :=
  match x.magnitude with
  | .ratio n d => some (if x.negative then -(n : Int) else n, d)
  | _ => none

/-- The number with the other sign. -/
def opposite (x : Fraction) : Fraction := { x with negative := !x.negative }

/-- The sum of two numbers. -/
def sum (x y : Fraction) : Fraction :=
  match ratio? x, ratio? y with
  | some (a, b), some (c, d) => ofRatio (a * d + c * b) (b * d)
  | _, _ =>
    match x.magnitude, y.magnitude with
    | .undefined, _ | _, .undefined => undefined
    | .infinite, .infinite => if x.negative = y.negative then x else undefined
    | .infinite, _ => x
    | _, _ => y

/-- The product of two numbers. -/
def product (x y : Fraction) : Fraction :=
  let negative := x.negative != y.negative
  match x.magnitude, y.magnitude with
  | .ratio a b, .ratio c d => ofRatio (if negative then -((a * c : Nat) : Int) else a * c) (b * d)
  | .undefined, _ | _, .undefined => undefined
  | .infinite, .ratio 0 _ | .ratio 0 _, .infinite => undefined
  | _, _ => ⟨negative, .infinite⟩

/-- The quotient of two numbers. -/
def quotient (x y : Fraction) : Fraction :=
  let negative := x.negative != y.negative
  match x.magnitude, y.magnitude with
  | .ratio 0 _, .ratio 0 _ => undefined
  | .ratio _ _, .ratio 0 _ => ⟨negative, .infinite⟩
  | .ratio a b, .ratio c d => ofRatio (if negative then -((a * d : Nat) : Int) else a * d) (b * c)
  | .undefined, _ | _, .undefined => undefined
  | .infinite, .infinite => undefined
  | .infinite, _ => ⟨negative, .infinite⟩
  | _, .infinite => ⟨negative, .ratio 0 1⟩

/-- What is left of a number when another one is taken away as often as it can be. It has the sign
of the number. -/
def remainder (x y : Fraction) : Fraction :=
  match ratio? x, ratio? y with
  | some (a, b), some (c, d) => if c = 0 then undefined else ofRatio ((a * d).tmod (c * b)) (b * d)
  | some _, none => if y.magnitude = .infinite then x else undefined
  | none, _ => undefined

/-- The whole part of a number, without what is behind the point. -/
def whole (x : Fraction) : Option Int := (ratio? x).map fun (n, d) => n.tdiv d

/-- The whole part of a number as it is kept in a machine word. -/
def word (x : Fraction) : Int :=
  match whole x with
  | some n => clamp n
  | none => if x.negative then -9223372036854775808 else 9223372036854775807

/-- Compares two numbers. Nothing compares to what is no number. -/
def order? (x y : Fraction) : Option Ordering :=
  match ratio? x, ratio? y with
  | some (a, b), some (c, d) => some (compareOfLessAndEq (a * d) (c * b))
  | _, _ =>
    match x.magnitude, y.magnitude with
    | .undefined, _ | _, .undefined => none
    | .infinite, .infinite =>
      some (if x.negative = y.negative then .eq else if x.negative then .lt else .gt)
    | .infinite, _ => some (if x.negative then .lt else .gt)
    | _, _ => some (if y.negative then .gt else .lt)

/-- A number as a machine calculates with it. -/
def toFloat (x : Fraction) : Float :=
  let size : Float := match x.magnitude with
    | .ratio n d => Float.ofNat n / Float.ofNat d
    | .infinite => 1.0 / 0.0
    | .undefined => 0.0 / 0.0
  if x.negative then -size else size

/-- The number that a machine has calculated. -/
def ofFloat (x : Float) : Fraction :=
  let bits := x.toBits.toNat
  let negative := Nat.pow 2 63 ≤ bits
  let exponent := bits / Nat.pow 2 52 % 2048
  let digits := bits % Nat.pow 2 52
  let sized (n e : Nat) : Magnitude :=
    .ratio (n * Nat.pow 2 (e - 1075)) (Nat.pow 2 (1075 - e))
  if exponent = 2047 then (if digits = 0 then ⟨negative, .infinite⟩ else undefined)
  else if exponent = 0 then ⟨negative, sized digits 1⟩
  else ⟨negative, sized (digits + Nat.pow 2 52) exponent⟩

/-- What a function that a machine knows makes of a number. -/
def byMachine (f : Float → Float) (x : Fraction) : Fraction := ofFloat (f (toFloat x))

/-- A number raised to the power of another one. -/
def power (x y : Fraction) : Fraction :=
  match ratio? x, ratio? y with
  | some (a, b), some (n, 1) =>
    if n.natAbs ≤ 1100 ∧ Nat.log2 a.natAbs ≤ 64 ∧ Nat.log2 b ≤ 64 then
      let size := n.natAbs
      let (num, den) : Int × Nat := (Int.pow a size, Nat.pow b size)
      if 0 ≤ n then ofRatio num den else quotient one (ofRatio num den)
    else ofFloat (Float.pow (toFloat x) (toFloat y))
  | _, _ => ofFloat (Float.pow (toFloat x) (toFloat y))

/-! ### Values -/

/-- A value. -/
inductive Datum where
  /-- What nothing has been put into: it is both an empty text and zero. -/
  | unset
  | number (x : Fraction)
  | text (t : Text)
  /-- A text that was read. It counts as a number if it looks like one. -/
  | input (t : Text)
  deriving DecidableEq, Repr, Inhabited

namespace Datum

/-- The number at the start of a text, or zero. -/
def leading (t : Text) : Fraction :=
  match Fraction.read? precision t with
  | some (x, _) => x
  | none => .zero

/-- The number that a text looks like, with blanks around it. -/
def looking? (t : Text) : Option Fraction :=
  match Fraction.read? precision t with
  | some (x, rest) => if rest.all fun c => isBlank c || c == '\n' then some x else none
  | none => none

/-- The number that a value stands for. -/
def toNumber : Datum → Fraction
  | .unset => .zero
  | .number x => x
  | .text t | .input t => leading t

/-- A truth as a value. -/
def ofTruth (b : Bool) : Datum := .number (if b then one else .zero)

/-- Whether a value counts as true. -/
def isTrue : Datum → Bool
  | .unset => false
  | .number x => order? x .zero != some .eq
  | .text t => t != []
  | .input t =>
    match looking? t with
    | some x => order? x .zero != some .eq
    | none => t != []

/-- The number that a value counts as when it is compared. -/
def comparable? : Datum → Option Fraction
  | .unset => some .zero
  | .number x => some x
  | .text _ => none
  | .input t => looking? t

end Datum

/-! ### Writing -/

/-- A value that is to be written, as a number and as a text. -/
structure Shown where
  number : Fraction
  text : Text
  isNumber : Bool

/-- Writes values by a format, in at most so many steps, behind texts that are given in reverse. The
answer says too whether all that the format asks for was there. -/
def formatted : Nat → Text → List Shown → List Text → Text × Bool
  | 0, _, _, before => (before.reverse.flatten, true)
  | _ + 1, [], _, before => (before.reverse.flatten, true)
  | steps + 1, '%' :: '%' :: rest, values, before => formatted steps rest values (['%'] :: before)
  | steps + 1, '%' :: rest, values, before =>
    match Format.directive? true rest with
    | none => (before.reverse.flatten, false)
    | some (d, rest) =>
      let found := do
        let (width, values) ← quantity d.width values
        let (precision, values) ← match d.precision with
          | none => some (none, values)
          | some q => (quantity q values).map fun (n, values) =>
            (if n < 0 then none else some n.toNat, values)
        let v ← values.head?
        let text ← conversion? d width precision v
        return (text, values.tail)
      match found with
      | none => (before.reverse.flatten, false)
      | some (text, values) => formatted steps rest values (text :: before)
  | steps + 1, c :: rest, values, before => formatted steps rest values ([c] :: before)
where
  /-- The number that a quantity stands for, and the values that are left. -/
  quantity (q : Format.Quantity) (values : List Shown) : Option (Int × List Shown) :=
    match q, values with
    | .fixed n, values => some (n, values)
    | .argument, v :: values => some (word v.number, values)
    | .argument, [] => none
  /-- A value written by a directive, if that is a known one. -/
  conversion? (d : Format.Directive) (width : Int) (precision : Option Nat) (v : Shown) :
      Option Text :=
    let n := word v.number
    let bits := n % 18446744073709551616
    match d.conversion with
    | 'd' | 'i' => some (Format.writeNumber d width precision 10 n)
    | 'u' => some (Format.writeNumber d width precision 10 bits)
    | 'o' => some (Format.writeNumber d width precision 8 bits)
    | 'x' => some (Format.writeNumber d width precision 16 bits)
    | 'X' => some ((Format.writeNumber d width precision 16 bits).map Char.toUpper)
    | 'c' =>
      let c := if v.isNumber then Char.ofNat (bits % 256).toNat else v.text.headD '\x00'
      some (Format.writeText d width none [c])
    | 's' => some (Format.writeText d width precision v.text)
    | 'e' | 'E' | 'f' | 'F' | 'g' | 'G' => some (Format.writeFraction d width precision v.number)
    | _ => none

/-- A number as a text: a whole number by its digits, and another one by a format. -/
def numberText (format : Text) (x : Fraction) : Text :=
  match ratio? x with
  | some (n, 1) =>
    if n.natAbs < 18446744073709551616 then ofInt n
    else (formatted (format.length + 1) format [⟨x, [], true⟩] []).1
  | some (n, d) =>
    if n % d = 0 ∧ (n / d).natAbs < 18446744073709551616 then ofInt (n / d)
    else (formatted (format.length + 1) format [⟨x, [], true⟩] []).1
  | none =>
    (if x.negative then ['-'] else []) ++
      ofString (if x.magnitude = .infinite then "inf" else "nan")

/-- A value as a text, given the format of numbers. -/
def Datum.toText (format : Text) : Datum → Text
  | .unset => []
  | .number x => numberText format x
  | .text t | .input t => t

end LspSession.Utility.Records
