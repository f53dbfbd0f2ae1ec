/-
Decimal numbers and the doubles nearest to them.

* `Decimal`: a coefficient and a power of ten;
* `Binary64.ofDecimal`: the nearest double. Decimals far out of reach are
  answered without computing their power of ten.
-/
import Condition.Number.Rounding

namespace Condition

-- Powers are core's own, also beside a library that brings another instance; an
-- exponent that is a numeral names its type for that.
attribute [local instance (high)] instPowNat

/-- The number `coefficient * 10 ^ exponent`. -/
structure Decimal where
  coefficient : Nat
  exponent : Int
deriving DecidableEq, Repr

/-- How many digits the number has before the decimal point: it is below
`10 ^ point`, and at least `10 ^ (point - 1)` unless it is zero. -/
def Decimal.point (d : Decimal) : Int :=
  (Nat.toDigits 10 d.coefficient).length + d.exponent

/-- The double nearest to a decimal number, a half going to the even neighbour.
A number below `10 ^ -330` is nearer to zero than to the least double, and one
of at least `10 ^ 310` is past the greatest. -/
def Binary64.ofDecimal (negative : Bool) (d : Decimal) : Binary64 :=
  if d.coefficient = 0 ∨ d.point < -330 then .finite negative .zero
  else if 310 < d.point then .infinite negative
  else
    .ofRatio negative (d.coefficient * 10 ^ d.exponent.toNat * 2 ^ (1074 : Nat))
      (10 ^ (-d.exponent).toNat)

end Condition
