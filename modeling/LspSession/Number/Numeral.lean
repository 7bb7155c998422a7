import LspSession.Number.Shortest

/-!
# `LspSession.Number.Numeral`: the numbers of a document

A document's number is either an integer that fits 64 bits or a binary floating-point number. A
`Numeral` is its spelling, split into sign, whole digits, fraction digits and exponent.
`Numeral.value?` reads it. A numeral without fraction and exponent is an integer when it fits.

Any other numeral is read in two roundings, and not always to the nearest number. Its digits are
gathered into a significand of 64 bits; the whole digits that no longer fit only raise the
exponent, and so do fraction digits from the first that no longer fits, which are dropped. The
significand is rounded to a floating-point number and then multiplied or divided by a power of
ten, itself rounded. Powers beyond the largest finite one are reached by dividing in steps. A
result too large to be finite is refused.
-/

set_option autoImplicit false

namespace LspSession

/-- A number of a document. An integer that does not fit is a floating-point number, and the
spelling of it is not kept. -/
inductive Number where
  /-- An integer from `-2 ^ 63` to `2 ^ 64 - 1`. -/
  | integer (value : Int)
  /-- A floating-point number. -/
  | float (value : Binary64)
  deriving DecidableEq, Repr

namespace Number

/-- The text of a number. A float shows a point or an exponent, so it reads back as a float. -/
def render : Number → String
  | .integer i => Decimal.renderInt i
  | .float x => x.render

/-- The number as a signed integer of 64 bits, if it is one. A float is none, whatever its value. -/
def toInt64? : Number → Option Int64
  | .integer i => if -(Nat.pow 2 63) ≤ i ∧ i < Nat.pow 2 63 then some (Int64.ofInt i) else none
  | .float _ => none

end Number

/-- The spelling of a number. Absent parts are empty, and an exponent has at least one digit. -/
structure Numeral where
  negative : Bool
  whole : List Nat
  fraction : List Nat
  exponent : Option (Bool × List Nat)
  deriving DecidableEq, Repr

namespace Numeral

/-- The greatest significand that digits are gathered into, the largest machine word of 64 bits. -/
def significandLimit : Nat := Nat.pow 2 64 - 1

/-- Appends digits to a significand while it stays within the limit. Answers the significand and the
digits left over. -/
def gather (significand : Nat) : List Nat → Nat × List Nat
  | [] => (significand, [])
  | d :: ds =>
    if 10 * significand + d ≤ significandLimit then gather (10 * significand + d) ds
    else (significand, d :: ds)

/-- The greatest exponent that is told from greater ones. It is beyond what any text can make up
for. -/
def greatestExponent : Nat := Nat.pow 2 31 - 1

/-- The exponent that digits spell in base ten, or the greatest one if they spell more. -/
def exponentOf (ds : List Nat) : Nat := ds.foldl (fun n d => min greatestExponent (10 * n + d)) 0

/-- The greatest power of ten that is finite as a `Binary64`. -/
def greatestPower : Nat := 308

/-- A power of ten, rounded. Up to the 22nd it is exact. -/
def powerOfTen? (k : Nat) : Option Binary64 := Binary64.ofNat? (Nat.pow 10 k)

/-- Scales a magnitude by a power of ten in roundings of one step each. It ends because every
further step makes the exponent less negative. -/
def scale? (x : Binary64) (e : Int) : Option Binary64 :=
  if e.natAbs ≤ greatestPower then do
    let p ← powerOfTen? e.natAbs
    if 0 ≤ e then x.mul? p else x.div? p
  else if x.isZero then some x
  else if 0 ≤ e then none
  else do
    let p ← powerOfTen? greatestPower
    let y ← x.div? p
    scale? y (e + greatestPower)
termination_by e.natAbs
decreasing_by simp only [greatestPower] at *; omega

/-- The value of a numeral, unless it is too large. A minus sign in front of a zero makes it a
float, as an integer has no negative zero. -/
def value? (n : Numeral) : Option Number :=
  let (whole, beyond) := gather 0 n.whole
  if n.fraction = [] ∧ n.exponent = none ∧ beyond = [] ∧
      (n.negative → whole ≠ 0 ∧ whole ≤ Nat.pow 2 63) then
    some (.integer (if n.negative then -whole else whole))
  else do
    let (significand, dropped) := gather whole n.fraction
    -- Whole digits that were left over raise the exponent, and fraction digits that were taken
    -- lower it.
    let shift : Int := beyond.length - (n.fraction.length - dropped.length : Nat)
    let power : Int := match n.exponent with
      | none => 0
      | some (negative, ds) => if negative then -exponentOf ds else exponentOf ds
    let x ← Binary64.ofNat? significand
    let y ← scale? x (shift + power)
    return .float { y with negative := n.negative }

end Numeral

end LspSession
