import LspSession.Host.Shell.Arithmetic
import LspSession.Number.Binary64

/-!
# `LspSession.Host.Shell.Fraction`: numbers with fractions

A number with a fraction is a sign and a ratio of natural numbers, unless it is infinite or no
number at all. It is read from digits in base ten or sixteen and kept to so many binary digits, as a
machine keeps it. It is written with a fixed number of digits behind the point, or with one digit
before the point and an exponent. Both round the exact ratio to the nearest last digit, and a half
to the even one.
-/

set_option autoImplicit false

namespace LspSession.Shell

/-- How large a number is. -/
inductive Magnitude where
  | ratio (num den : Nat)
  | infinite
  /-- It is no number. -/
  | undefined
  deriving DecidableEq, Repr

/-- A number with a fraction. -/
structure Fraction where
  negative : Bool
  magnitude : Magnitude
  deriving DecidableEq, Repr

namespace Fraction

/-- Zero. -/
def zero : Fraction := ⟨false, .ratio 0 1⟩

/-- A whole number. -/
def ofInt (n : Int) : Fraction := ⟨n < 0, .ratio n.natAbs 1⟩

/-- The nearest ratio that has so many binary digits. -/
def keep (bits num den : Nat) : Magnitude :=
  if num = 0 ∨ den = 0 then .ratio 0 1
  else
    let guess : Int := (Nat.log2 num : Int) - Nat.log2 den - (bits - 1)
    let isLow := num * Nat.pow 2 (-guess).toNat < Nat.pow 2 (bits - 1) * den * Nat.pow 2 guess.toNat
    let e := if isLow then guess - 1 else guess
    let m := divNearestEven (num * Nat.pow 2 (-e).toNat) (den * Nat.pow 2 e.toNat)
    .ratio (m * Nat.pow 2 e.toNat) (Nat.pow 2 (-e).toNat)

/-- The greatest exponent that is looked at. -/
def greatestExponent : Nat := 5000

/-- Reads the exponent behind a mark, and gives it with what follows it. -/
def exponent (marks : List Char) (text : Text) : Int × Text :=
  match text with
  | c :: rest =>
    let (negative, digits) := match rest with
      | '-' :: rest => (true, rest)
      | '+' :: rest => (false, rest)
      | rest => (false, rest)
    let found := digits.takeWhile isDigit
    if marks.contains c ∧ found ≠ [] then
      let n : Int := min greatestExponent (valueIn 10 found)
      (if negative then -n else n, digits.drop found.length)
    else (0, text)
  | [] => (0, [])

/-- Reads digits in a base, perhaps with a point between them. Behind them can stand an exponent of
another base, with certain marks in front. The answer is a ratio and what follows it. -/
def digits? (base exponentBase : Nat) (marks : List Char) (text : Text) :
    Option (Nat × Nat × Text) :=
  let isIn (c : Char) : Bool := (digitIn? base c).isSome
  let whole := text.takeWhile isIn
  let (places, rest) := match text.drop whole.length with
    | '.' :: rest => (rest.takeWhile isIn, rest.dropWhile isIn)
    | rest => ([], rest)
  if whole = [] ∧ places = [] then none
  else
    let (e, rest) := exponent marks rest
    some (valueIn base (whole ++ places) * Nat.pow exponentBase e.toNat,
      Nat.pow base places.length * Nat.pow exponentBase (-e).toNat, rest)

/-- Whether a text starts with a name, in whatever case. -/
def startsWith (name : String) (text : Text) : Bool :=
  (text.take name.length).map Char.toLower == name.toList

/-- Reads the number at the start of a text, keeping so many binary digits. The answer holds what
follows the number too. -/
def read? (bits : Nat) (text : Text) : Option (Fraction × Text) :=
  let text := text.dropWhile readNumber?.isInSpace
  let (negative, text) := match text with
    | '-' :: rest => (true, rest)
    | '+' :: rest => (false, rest)
    | text => (false, text)
  let number (found : Nat × Nat × Text) : Fraction × Text :=
    (⟨negative, keep bits found.1 found.2.1⟩, found.2.2)
  if startsWith "infinity" text then some (⟨negative, .infinite⟩, text.drop 8)
  else if startsWith "inf" text then some (⟨negative, .infinite⟩, text.drop 3)
  else if startsWith "nan" text then some (⟨negative, .undefined⟩, text.drop 3)
  else
    match (if startsWith "0x" text then digits? 16 2 ['p', 'P'] (text.drop 2) else none) with
    | some found => some (number found)
    | none => (digits? 10 10 ['e', 'E'] text).map number

/-- A ratio with so many digits behind the point, which stands there also in front of none if that
is asked for. -/
def fixed (places : Nat) (point : Bool) (num den : Nat) : Text :=
  let written := Decimal.digits (divNearestEven (num * Nat.pow 10 places) den)
  let written := List.replicate (places + 1 - written.length) '0' ++ written
  let front := written.take (written.length - places)
  front ++ (if places = 0 then (if point then ['.'] else []) else
    '.' :: written.drop (written.length - places))

/-- The decimal exponent of a positive ratio. -/
def decimalExponent (num den : Nat) : Int :=
  let guess : Int := (Decimal.digits num).length - (Decimal.digits den).length
  if num * Nat.pow 10 (-guess).toNat < den * Nat.pow 10 guess.toNat then guess - 1 else guess

/-- The digits of a ratio without a point, so many behind the first, and its exponent. -/
def scientific (places : Nat) (num den : Nat) : Text × Int :=
  if num = 0 then (List.replicate (places + 1) '0', 0)
  else
    let e := decimalExponent num den
    let shift : Int := places - e
    let digits := Decimal.digits
      (divNearestEven (num * Nat.pow 10 shift.toNat) (den * Nat.pow 10 (-shift).toNat))
    if digits.length = places + 2 then (digits.take (places + 1), e + 1) else (digits, e)

/-- Digits with a point behind the first, and an exponent. -/
def withExponent (point : Bool) (digits : Text) (e : Int) : Text :=
  let power := Decimal.digits e.natAbs
  let power := List.replicate (2 - power.length) '0' ++ power
  let places := match digits.drop 1 with
    | [] => if point then ['.'] else []
    | places => '.' :: places
  digits.take 1 ++ places ++ 'e' :: (if e < 0 then '-' else '+') :: power

/-- A text of digits without zeros at the end of the fraction. -/
def trim (text : Text) : Text :=
  if text.contains '.' then
    let rest := text.reverse.dropWhile (· == '0')
    (if rest.head? = some '.' then rest.tail else rest).reverse
  else text

/-- A ratio in the shorter way of writing it, with so many digits that count. -/
def shorter (digits : Nat) (point : Bool) (num den : Nat) : Text :=
  let digits := max 1 digits
  let (found, e) := scientific (digits - 1) num den
  if -5 < e ∧ e < digits then
    let text := fixed ((digits : Int) - 1 - e).toNat point num den
    if point then text else trim text
  else
    let found := if point then found else
      found.take 1 ++ ((found.drop 1).reverse.dropWhile (· == '0')).reverse
    withExponent point found e

/-- A number written as a conversion says, without its sign. -/
def body (conversion : Char) (precision : Nat) (point : Bool) : Magnitude → Text
  | .infinite => ['i', 'n', 'f']
  | .undefined => ['n', 'a', 'n']
  | .ratio num den =>
    match conversion.toLower with
    | 'f' => fixed precision point num den
    | 'e' =>
      let (digits, e) := scientific precision num den
      withExponent point digits e
    | _ => shorter precision point num den

end Fraction

end LspSession.Shell
