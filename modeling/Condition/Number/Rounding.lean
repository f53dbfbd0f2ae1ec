/-
Rounding a quotient to the nearest double.

* `roundHalfEven`: the nearest whole number to a quotient, a half going to the
  even neighbour;
* `Magnitude.nearest?`: the nearest magnitude, unless it is past the last one;
* `Binary64.ofRatio`: the nearest double.
-/
import Condition.Number.Binary64

namespace Condition

-- Powers are core's own, also beside a library that brings another instance; an
-- exponent that is a numeral names its type for that.
attribute [local instance (high)] instPowNat

/-- The whole number nearest to `num / den`; of two equally near ones, the even
one. -/
def roundHalfEven (num den : Nat) : Nat :=
  let floor := num / den
  let rest := num % den
  if 2 * rest < den ∨ (2 * rest = den ∧ floor % 2 = 0) then floor else floor + 1

theorem roundHalfEven_le (num den : Nat) : roundHalfEven num den ≤ num / den + 1 := by
  simp only [roundHalfEven]
  split <;> omega

namespace Magnitude

/-- How many bits a quotient has in front of its 53 leading ones. -/
def excess (num den : Nat) : Nat := (num / den).log2 - 52

/-- With the excess cut off, 53 bits remain. -/
theorem div_excess_lt (num den : Nat) :
    num / (den * 2 ^ excess num den) < 2 ^ (53 : Nat) := by
  rw [← Nat.div_div_eq_div_mul]
  apply Nat.div_lt_of_lt_mul
  rw [← Nat.pow_add]
  refine Nat.lt_of_lt_of_le Nat.lt_log2_self (Nat.pow_le_pow_right (by decide) ?_)
  unfold excess
  omega

/-- The magnitude nearest to `num / den` units, a half going to the one with the
even significand; `none` past the last magnitude. -/
def nearest? (num den : Nat) : Option Magnitude :=
  let s := excess num den
  let k := roundHalfEven num (den * 2 ^ s)
  if h : k * 2 ^ s < limit then
    some (scaled k s (Nat.le_trans (roundHalfEven_le _ _) (div_excess_lt num den)) h)
  else none

end Magnitude

/-- The double nearest to `num / den` units of `2 ^ -1074`; past the last one
that is an infinity. -/
def Binary64.ofRatio (negative : Bool) (num den : Nat) : Binary64 :=
  match Magnitude.nearest? num den with
  | some m => .finite negative m
  | none => .infinite negative

end Condition
