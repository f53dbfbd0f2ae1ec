/-
The nearest double of a decimal goes by the number, not by how it is written.

* `roundHalfEven_mul`, `Binary64.ofRatio_mul`: a quotient is rounded alike if both of its parts
  are multiplied;
* `Binary64.ofDecimal_shift`: zeros at the end of a coefficient change nothing, as long as the
  power of ten makes up for them;
* `Binary64.ofDecimal_negative`: the sign of a decimal is only put in front.
-/
import Condition.Number.Decimal
import Mathlib.Tactic.Lemma

namespace Condition

-- Powers are core's own, also beside a library that brings another instance.
attribute [local instance (high)] instPowNat

/-! ### Rounding a quotient -/

section Quotients

variable {k : Nat}

/-- A quotient is rounded alike if both of its parts are multiplied. -/
lemma roundHalfEven_mul (num den : Nat) (hk : 0 < k) :
    roundHalfEven (num * k) (den * k) = roundHalfEven num den := by
  have hrest : num * k % (den * k) = num % den * k := Nat.mul_mod_mul_right k num den
  have hfloor : num * k / (den * k) = num / den := Nat.mul_div_mul_right num den hk
  have hless : 2 * (num % den * k) < den * k ↔ 2 * (num % den) < den := by
    rw [← Nat.mul_assoc]
    exact Nat.mul_lt_mul_right hk
  have hhalf : 2 * (num % den * k) = den * k ↔ 2 * (num % den) = den := by
    rw [← Nat.mul_assoc]
    exact Nat.mul_left_inj (Nat.ne_of_gt hk)
  simp only [roundHalfEven, hrest, hfloor, hless, hhalf]

namespace Magnitude

lemma excess_mul (num den : Nat) (hk : 0 < k) : excess (num * k) (den * k) = excess num den := by
  rw [excess, excess, Nat.mul_div_mul_right num den hk]

/-- A magnitude is its number of units. -/
lemma units_injective {m m' : Magnitude} (h : m.units = m'.units) : m = m' := by
  cases m
  cases m'
  simpa using h

/-- **The nearest magnitude** has the units to which the quotient is rounded, in steps of the
bits that are cut off. -/
lemma nearest?_eq_some_iff {num den : Nat} {m : Magnitude} :
    nearest? num den = some m ↔
      roundHalfEven num (den * 2 ^ excess num den) * 2 ^ excess num den = m.units := by
  constructor
  · intro h
    simp only [nearest?] at h
    split at h
    · rw [← Option.some.inj h]
      rfl
    · cases h
  · intro h
    have hlt := m.bounded
    rw [← h] at hlt
    simp only [nearest?]
    rw [dif_pos hlt, Option.some.injEq]
    exact units_injective h

/-- The nearest magnitude of a quotient goes by its value. -/
lemma nearest?_mul (num den : Nat) (hk : 0 < k) :
    nearest? (num * k) (den * k) = nearest? num den := by
  ext m
  rw [nearest?_eq_some_iff, nearest?_eq_some_iff, excess_mul num den hk, Nat.mul_right_comm den,
    roundHalfEven_mul num _ hk]

end Magnitude

/-- **The nearest double of a quotient** goes by its value. -/
lemma Binary64.ofRatio_mul (negative : Bool) (num den : Nat) (hk : 0 < k) :
    ofRatio negative (num * k) (den * k) = ofRatio negative num den := by
  unfold ofRatio
  rw [Magnitude.nearest?_mul num den hk]

end Quotients

/-! ### Decimals of one value -/

/-- A zero at the end is one more digit. -/
lemma length_toDigits_mul_ten {n : Nat} (hn : 0 < n) :
    (Nat.toDigits 10 (n * 10)).length = (Nat.toDigits 10 n).length + 1 := by
  rw [Nat.toDigits_of_base_le (by decide) (by omega), Nat.mul_div_cancel n (by decide),
    List.length_append, List.length_singleton]

/-- A zero at the end does not move the point. -/
lemma Decimal.point_shift {c : Nat} (hc : 0 < c) (e : Int) :
    Decimal.point ⟨c * 10, e - 1⟩ = Decimal.point ⟨c, e⟩ := by
  simp only [point, length_toDigits_mul_ten hc]
  omega

namespace Binary64

/-- The nearest double of a decimal that is not zero and in reach, as that of a quotient of
whole units. -/
def ofQuotient (negative : Bool) (d : Decimal) (unit : Nat) : Binary64 :=
  .ofRatio negative (d.coefficient * 10 ^ d.exponent.toNat * unit) (10 ^ (-d.exponent).toNat)

/-- One zero at the end of the coefficient, in whatever unit. -/
lemma ofQuotient_mul_ten (negative : Bool) (c : Nat) (e : Int) (unit : Nat) :
    ofQuotient negative ⟨c * 10, e - 1⟩ unit = ofQuotient negative ⟨c, e⟩ unit := by
  unfold ofQuotient
  -- below the units the zero goes into the denominator, otherwise the power of ten loses one
  rcases Int.lt_or_le 0 e with he | he
  · have hexponent : e.toNat = (e - 1).toNat + 1 := by omega
    have hdenominator : (-(e - 1)).toNat = (-e).toNat := by omega
    have hnumerator : c * 10 * 10 ^ (e - 1).toNat = c * 10 ^ e.toNat := by
      rw [hexponent, Nat.pow_succ, Nat.mul_assoc, Nat.mul_comm 10]
    rw [hdenominator, hnumerator]
  · have hexponent : (e - 1).toNat = e.toNat := by omega
    have hdenominator : (-(e - 1)).toNat = (-e).toNat + 1 := by omega
    have hnumerator : c * 10 * 10 ^ e.toNat * unit = c * 10 ^ e.toNat * unit * 10 := by
      rw [Nat.mul_right_comm c, Nat.mul_right_comm _ 10]
    have hten : 0 < 10 := by decide
    rw [hexponent, hdenominator, hnumerator, Nat.pow_succ, ofRatio_mul _ _ _ hten]

lemma ofDecimal_eq (negative : Bool) (d : Decimal) :
    ofDecimal negative d =
      if d.coefficient = 0 ∨ d.point < -330 then .finite negative .zero
      else if 310 < d.point then .infinite negative
      else ofQuotient negative d (2 ^ (1074 : Nat)) := rfl

/-- One zero at the end of the coefficient. -/
lemma ofDecimal_mul_ten (negative : Bool) (c : Nat) (e : Int) :
    ofDecimal negative ⟨c * 10, e - 1⟩ = ofDecimal negative ⟨c, e⟩ := by
  rcases Nat.eq_zero_or_pos c with rfl | hc
  · rw [ofDecimal_eq, ofDecimal_eq, if_pos (.inl (Nat.zero_mul 10)), if_pos (.inl rfl)]
  have hzero : c * 10 = 0 ↔ c = 0 := by omega
  rw [ofDecimal_eq, ofDecimal_eq, ofQuotient_mul_ten, Decimal.point_shift hc]
  simp only [hzero]

/-- **Decimals of one value** have one nearest double: zeros at the end of the coefficient are
made up for by the power of ten. -/
theorem ofDecimal_shift (negative : Bool) (c : Nat) (e : Int) (k : Nat) :
    ofDecimal negative ⟨c * 10 ^ k, e - k⟩ = ofDecimal negative ⟨c, e⟩ := by
  induction k with
  | zero => simp
  | succ k ih =>
      have hexponent : e - (k + 1 : Nat) = e - k - 1 := by omega
      rw [Nat.pow_succ, ← Nat.mul_assoc, hexponent, ofDecimal_mul_ten, ih]

/-- The sign of a quotient is only put in front of the magnitude. -/
lemma ofRatio_eq_finite_iff {negative : Bool} {num den : Nat} {m : Magnitude} :
    ofRatio negative num den = finite negative m ↔ Magnitude.nearest? num den = some m := by
  unfold ofRatio
  cases Magnitude.nearest? num den with
  | none => simp
  | some m' => simp

/-- **The sign of a decimal** is only put in front of the magnitude. -/
lemma ofDecimal_negative {d : Decimal} {m : Magnitude} (h : ofDecimal false d = finite false m)
    (negative : Bool) : ofDecimal negative d = finite negative m := by
  rw [ofDecimal_eq] at h ⊢
  split at h
  · rename_i hzero
    rw [if_pos hzero, (finite.inj h).2]
  · rename_i hzero
    rw [if_neg hzero]
    split at h
    · cases h
    · rename_i hreach
      rw [if_neg hreach]
      exact ofRatio_eq_finite_iff.mpr (ofRatio_eq_finite_iff.mp h)

end Binary64

end Condition
