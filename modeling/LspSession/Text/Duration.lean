import LspSession.Text.Decimal

/-!
# `LspSession.Text.Duration`: spans of time as text

A span of time is a number of nanoseconds. It is written in the largest of four units of which it
holds at least one, as a decimal with as many places as it needs. The empty span has no
nanoseconds.
-/

set_option autoImplicit false

namespace LspSession.Duration

/-- Digits of a fraction of `unit` parts, a power of ten, without trailing zeros. Zeros in front are
kept by writing `unit + part` and dropping its first digit. -/
def fraction (unit part : Nat) : List Char :=
  let ds := (Decimal.digits (unit + part)).tail
  (ds.reverse.dropWhile (· == '0')).reverse

/-- A number of units and the parts left over, in decimal, with the symbol of the unit behind. -/
def inUnit (nanos unit : Nat) (symbol : String) : String :=
  let places := fraction unit (nanos % unit)
  Decimal.render (nanos / unit) ++
    (if places = [] then "" else String.ofList ('.' :: places)) ++ symbol

/-- A span of time as text, in the largest unit of which it holds at least one. -/
def render (nanos : Nat) : String :=
  if 1000000000 ≤ nanos then inUnit nanos 1000000000 "s"
  else if 1000000 ≤ nanos then inUnit nanos 1000000 "ms"
  else if 1000 ≤ nanos then inUnit nanos 1000 "µs"
  else inUnit nanos 1 "ns"

end LspSession.Duration
