import LspSession.Number.Binary64
import LspSession.Text.Decimal

/-!
# `LspSession.Number.Shortest`: the fewest decimal digits that read back

Every binary number owns the interval of reals that round to it. Its ends lie half way to the two
neighbours and belong to it when its significand is even. `shortest` looks for a decimal in that
interval on ever finer grids: one significant digit, then two, up to seventeen, which always
suffice. On each grid only the two points around the number can lie in the interval. The first
grid with a hit wins; of two hits the nearer one is taken, and of two equally near ones the one
with the even last digit.

`layout` writes the digits. A number whose decimal exponent lies between `-5` and `15` is written
positionally with at least one digit on each side of the point, and any other number with an
exponent that shows its sign.
-/

set_option autoImplicit false

namespace LspSession

/-- A decimal `digits * 10 ^ exponent`, as `shortest` finds one for a `Binary64`. -/
structure Decimal10 where
  digits : Nat
  exponent : Int
  deriving DecidableEq, Repr

namespace Binary64

/-- The numerator and denominator of a scaled natural. -/
def scaled (n : Nat) (e : Int) : Nat × Nat := (n * Nat.pow 2 e.toNat, Nat.pow 2 (-e).toNat)

/-- The decimal exponent `k` of a positive ratio: `10 ^ k ≤ num / den < 10 ^ (k + 1)`. -/
def decimalExponent (num den : Nat) : Int :=
  if den ≤ num then Decimal.count (num / den) - 1 else -(Decimal.count ((den - 1) / num) : Int)

/-- Whether `d * 10 ^ e` rounds to the positive number `x`. The comparison is made in quarter
units of the last place, because the gap below a power of two is half the gap above. -/
def owns (x : Binary64) (d : Nat) (e : Int) : Bool :=
  let m := x.significand
  let low := if m = Nat.pow 2 52 ∧ leastExponent < x.exponent then 4 * m - 1 else 4 * m - 2
  let high := 4 * m + 2
  -- the candidate and the unit, over one denominator
  let c := 4 * d * Nat.pow 10 e.toNat * Nat.pow 2 (-x.exponent).toNat
  let u := Nat.pow 10 (-e).toNat * Nat.pow 2 x.exponent.toNat
  if m % 2 = 0 then low * u ≤ c && c ≤ high * u else low * u < c && c < high * u

/-- The best multiple of `10 ^ e` that rounds to the positive number `x`. -/
def onGrid? (x : Binary64) (e : Int) : Option Decimal10 :=
  let (num, den) := scaled x.significand x.exponent
  let a := num * Nat.pow 10 (-e).toNat
  let b := den * Nat.pow 10 e.toNat
  let below := a / b
  match owns x below e && below ≠ 0, owns x (below + 1) e with
  -- Both points read back, so the nearer one is taken.
  | true, true => some ⟨divNearestEven a b, e⟩
  | true, false => some ⟨below, e⟩
  | false, true => some ⟨below + 1, e⟩
  | false, false => none

/-- A decimal for the positive number `x` on the grid of `10 ^ e` or the first of the finer ones, of
at most so many grids, that has one. -/
def shortestFrom (x : Binary64) (e : Int) : Nat → Decimal10
  | 0 => ⟨0, 0⟩
  | grids + 1 => (onGrid? x e).getD (shortestFrom x (e - 1) grids)

/-- The shortest decimal that reads back as the magnitude of the positive number `x`. -/
def shortest (x : Binary64) : Decimal10 :=
  let (num, den) := scaled x.significand x.exponent
  shortestFrom x (decimalExponent num den) 17

/-- Digits without their trailing zeros. -/
def dropTrailingZeros (ds : List Char) : List Char := (ds.reverse.dropWhile (· == '0')).reverse

/-- The text of the magnitude whose first significant digit, at `10 ^ k`, starts the list `ds`. -/
def layout (ds : List Char) (k : Int) : List Char :=
  let n := ds.length
  if -5 ≤ k ∧ k < 0 then '0' :: '.' :: List.replicate (-k - 1).toNat '0' ++ ds
  else if 0 ≤ k ∧ k ≤ 15 then
    let whole := k.toNat + 1
    if n ≤ whole then ds ++ List.replicate (whole - n) '0' ++ ['.', '0']
    else ds.take whole ++ '.' :: ds.drop whole
  else
    let sign := if k < 0 then '-' else '+'
    let mantissa := match ds with
      | d :: r :: rs => d :: '.' :: r :: rs
      | ds => ds
    mantissa ++ 'e' :: sign :: Decimal.digits k.natAbs

/-- The shortest text that reads back as `x`. -/
def render (x : Binary64) : String :=
  let sign := if x.negative then ['-'] else []
  if x.isZero then String.ofList (sign ++ ['0', '.', '0'])
  else
    let best := shortest x
    let ds := Decimal.digits best.digits
    String.ofList (sign ++ layout (dropTrailingZeros ds) (best.exponent + ds.length - 1))

end Binary64

end LspSession
