/-!
# `LspSession.Number.Binary64`: finite binary floating-point numbers of 64 bits

A finite number is a sign, a significand and an exponent, and stands for
`± significand * 2 ^ exponent`. Zero and the subnormal numbers have the least exponent; every
other number has a significand of exactly 53 bits. `round` takes any non-negative ratio, scaled
by a power of two, to the nearest such magnitude, and of two equally near ones to the one with the
even significand. It answers nothing when the magnitude is too large to be finite. The arithmetic
below is exact up to that one rounding.
-/

set_option autoImplicit false

namespace LspSession

/-- The quotient of two naturals rounded to the nearest natural, a half going to the even one. -/
def divNearestEven (a b : Nat) : Nat :=
  let q := a / b
  let r := a % b
  if 2 * r < b then q else if b < 2 * r then q + 1 else q + q % 2

/-- A finite binary floating-point number of 64 bits. Infinities and what is no number cannot be
made. -/
structure Binary64 where
  negative : Bool
  significand : Nat
  exponent : Int
  deriving DecidableEq, Repr, Inhabited

namespace Binary64

/-- The exponent of zero and of the subnormal numbers, whose significands may have fewer than 53
bits. -/
def leastExponent : Int := -1074

/-- The exponent of the largest finite numbers. What would need a greater one is too large. -/
def greatestExponent : Int := 971

/-- Zero with a sign. The two zeros are different numbers. -/
def zero (negative : Bool) : Binary64 := ⟨negative, 0, leastExponent⟩

/-- Whether the number is a zero of either sign. -/
def isZero (x : Binary64) : Bool := x.significand == 0

/-- The binary exponent at which a positive ratio has a significand of 53 bits, or the least
exponent if that is greater. -/
def exponentOf (num den : Nat) : Int :=
  -- The lengths in bits tell the exponent but for one, which the comparison decides.
  let guess : Int := (Nat.log2 num : Int) - Nat.log2 den - 52
  let low := num * Nat.pow 2 (-guess).toNat < Nat.pow 2 52 * den * Nat.pow 2 guess.toNat
  let q := if low then guess - 1 else guess
  max q leastExponent

/-- The number nearest to `num / den * 2 ^ scale`, unless it is too large. -/
def round (num den : Nat) (scale : Int) : Option Binary64 :=
  let n := num * Nat.pow 2 scale.toNat
  let d := den * Nat.pow 2 (-scale).toNat
  if n = 0 then some (zero false)
  else
    let q := exponentOf n d
    let m := divNearestEven (n * Nat.pow 2 (-q).toNat) (d * Nat.pow 2 q.toNat)
    -- Rounding up may carry into a 54th bit.
    let x : Binary64 := if m = Nat.pow 2 53 then ⟨false, Nat.pow 2 52, q + 1⟩ else ⟨false, m, q⟩
    if x.exponent ≤ greatestExponent then some x else none

/-- The number nearest to a natural number, unless it is too large. Up to `2 ^ 53` it is that
number. -/
def ofNat? (n : Nat) : Option Binary64 := round n 1 0

/-- The rounded product of two magnitudes, unless it is too large. Signs are left out of it. -/
def mul? (x y : Binary64) : Option Binary64 :=
  round (x.significand * y.significand) 1 (x.exponent + y.exponent)

/-- The rounded quotient of two magnitudes, unless it is too large. A zero divisor gives nothing. -/
def div? (x y : Binary64) : Option Binary64 :=
  if y.isZero then none else round x.significand y.significand (x.exponent - y.exponent)

end Binary64

end LspSession
