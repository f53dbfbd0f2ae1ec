/-
The text of a finite double stands for that double.

* `Decimal.fractionDigits_value`: the digits behind the point, with the zeros that were left
  out;
* `Decimal.read?_positional`: a decimal that is written out is read as its nearest double;
* `Magnitude.reads_exact`: all digits of a magnitude read back, and so do the shortest ones
  (`Magnitude.ofDecimal_shortest`);
* `Binary64.ofNumericText?_text`: so the text of a finite double is numeric and stands for it,
  and no other text of a double is numeric.
-/
import Condition.Proofs.Number.Scale
import Condition.Proofs.Number.Text

namespace Condition

-- Powers are core's own, also beside a library that brings another instance.
attribute [local instance (high)] instPowNat

open Numeral (digitsValue)

/-! ### The value of digits -/

/-- The value of digits in a row. -/
lemma digitsValue_append (ds fs : List Char) :
    digitsValue (ds ++ fs) = 10 ^ fs.length * digitsValue ds + digitsValue fs := by
  rw [digitsValue, Nat.ofDigitChars_append, Nat.ofDigitChars_eq_ofDigitChars_zero]
  rfl

/-- The digits of a number have its value. -/
lemma digitsValue_toDigits (n : Nat) : digitsValue (Nat.toDigits 10 n) = n :=
  Nat.ofDigitChars_ten_toDigits

lemma digitsValue_replicate_zero (n : Nat) : digitsValue (List.replicate n '0') = 0 := by
  rw [digitsValue, Nat.ofDigitChars_replicate_zero, Nat.mul_zero]

namespace Decimal

/-! ### Decimals written out -/

/-- **The digits behind the point** have the value that they were made of, once the zeros that
were left out at their end are put back. -/
lemma fractionDigits_value {n places : Nat} (hn : n < 10 ^ places) :
    ∃ zeros, (fractionDigits n places).length + zeros = places ∧
      digitsValue (fractionDigits n places) * 10 ^ zeros = n := by
  rcases Nat.eq_zero_or_pos places with rfl | hplaces
  · obtain rfl : n = 0 := by omega
    exact ⟨0, rfl, rfl⟩
  have hlength : (Nat.toDigits 10 n).length ≤ places :=
    (Nat.length_toDigits_le_iff (by decide) hplaces).mpr hn
  -- all places, with zeros in front and at the end
  let padded := List.replicate (places - (Nat.toDigits 10 n).length) '0' ++ Nat.toDigits 10 n
  have hpadded_length : padded.length = places := by
    rw [List.length_append, List.length_replicate]
    omega
  have hpadded_value : digitsValue padded = n := by
    rw [digitsValue_append, digitsValue_replicate_zero, digitsValue_toDigits, Nat.mul_zero,
      Nat.zero_add]
  have hfraction : fractionDigits n places = padded.rdropWhile (· == '0') := rfl
  have hsplit := List.rdropWhile_append_rtakeWhile (p := (· == '0')) (l := padded)
  have hzeros : padded.rtakeWhile (· == '0') =
      List.replicate (padded.rtakeWhile (· == '0')).length '0' := by
    refine List.eq_replicate_of_mem fun c hc => ?_
    have hzero := List.mem_rtakeWhile_imp hc
    exact beq_iff_eq.mp hzero
  refine ⟨(padded.rtakeWhile (· == '0')).length, ?_, ?_⟩
  · rw [hfraction, ← List.length_append, hsplit, hpadded_length]
  · have hvalue := congrArg digitsValue hsplit
    rw [digitsValue_append, hzeros, digitsValue_replicate_zero, List.length_replicate,
      hpadded_value, Nat.add_zero] at hvalue
    rw [hfraction, Nat.mul_comm, hvalue]

/-- What a decimal is in units of its last place. -/
def scaled (d : Decimal) : Nat := d.coefficient * 10 ^ d.exponent.toNat

/-- A decimal stands for the same number in units of its last place. -/
lemma ofDecimal_scaled (negative : Bool) (d : Decimal) :
    Binary64.ofDecimal negative ⟨d.scaled, -((-d.exponent).toNat : Int)⟩ =
      Binary64.ofDecimal negative d := by
  have hexponent : -((-d.exponent).toNat : Int) = d.exponent - d.exponent.toNat := by omega
  rw [scaled, hexponent, Binary64.ofDecimal_shift]

/-- The whole digits and those behind the point make up the decimal, but for zeros at the
end. -/
lemma exists_digits (d : Decimal) :
    ∃ whole fraction, ∃ zeros : Nat, Numeral.Mantissa whole fraction d.positional ∧
      fraction.length + zeros = (-d.exponent).toNat ∧
      digitsValue (whole ++ fraction) * 10 ^ zeros = d.scaled := by
  let places := (-d.exponent).toNat
  let fraction := fractionDigits (d.scaled % 10 ^ places) places
  have hlt : d.scaled % 10 ^ places < 10 ^ places := Nat.mod_lt _ (Nat.pow_pos (by decide))
  obtain ⟨zeros, hlength, hvalue⟩ := fractionDigits_value hlt
  refine ⟨Nat.toDigits 10 (d.scaled / 10 ^ places), fraction, zeros, ?_, hlength, ?_⟩
  · have hpositional : d.positional = Nat.toDigits 10 (d.scaled / 10 ^ places) ++
        if fraction = [] then [] else '.' :: fraction := rfl
    rw [hpositional]
    split
    · rename_i hfraction
      rw [List.append_nil, hfraction]
      exact .whole (digits_toDigits _)
    · exact .pointed (digits_toDigits _) fun c hc => isDigit_of_mem_fractionDigits hc
  · calc digitsValue (Nat.toDigits 10 (d.scaled / 10 ^ places) ++ fraction) * 10 ^ zeros
        = 10 ^ (fraction.length + zeros) * (d.scaled / 10 ^ places) +
            digitsValue fraction * 10 ^ zeros := by
          rw [digitsValue_append, digitsValue_toDigits, Nat.add_mul, Nat.pow_add,
            Nat.mul_right_comm]
      _ = 10 ^ places * (d.scaled / 10 ^ places) + d.scaled % 10 ^ places := by
          rw [hlength, hvalue]
      _ = d.scaled := Nat.div_add_mod _ _

/-- **A decimal written out** is read as its nearest double, with the sign in front. -/
theorem read?_positional (negative : Bool) (d : Decimal) :
    Binary64.read? (Binary64.signed negative d.positional) =
      some (Binary64.ofDecimal negative d) := by
  obtain ⟨sign, hsign, hsigned⟩ := Binary64.exists_signed negative d.positional
  obtain ⟨whole, fraction, zeros, hmantissa, hlength, hvalue⟩ := d.exists_digits
  have hwritten := Numeral.Written.mk hsign hmantissa .absent
  rw [List.append_nil, ← hsigned] at hwritten
  have hexponent : (0 : Int) - fraction.length - zeros = -((-d.exponent).toNat : Int) := by omega
  rw [Binary64.read?_of_written hwritten, Binary64.ofNumeral, Numeral.decimal,
    ← Binary64.ofDecimal_shift _ _ _ zeros, hvalue, hexponent, ofDecimal_scaled]

end Decimal

/-! ### Magnitudes -/

/-- A quotient that is a whole number is not rounded. -/
lemma roundHalfEven_mul_left {den : Nat} (hden : 0 < den) (k : Nat) :
    roundHalfEven (den * k) den = k := by
  simp only [roundHalfEven, Nat.mul_mod_right, Nat.mul_div_cancel_left k hden]
  rw [if_pos (.inl hden)]

namespace Magnitude

/-- A magnitude is the nearest one to itself. -/
lemma nearest?_units (m : Magnitude) : nearest? m.units 1 = some m := by
  have hexcess : excess m.units 1 = m.units.log2 - 52 := by rw [excess, Nat.div_one]
  obtain ⟨k, hk⟩ := m.significant
  have hround : roundHalfEven m.units (2 ^ (m.units.log2 - 52)) = k :=
    (congrArg (roundHalfEven · _) hk).trans (roundHalfEven_mul_left (Nat.two_pow_pos _) k)
  rw [nearest?_eq_some_iff, hexcess, Nat.one_mul, hround, Nat.mul_comm]
  exact hk.symm

/-- A magnitude that is not zero has its first digit within reach. -/
lemma point_exact {m : Magnitude} (hm : 0 < m.units) :
    -330 ≤ m.exact.point ∧ m.exact.point ≤ 310 := by
  have hleast : 10 ^ (743 : Nat) ≤ 5 ^ places := by decide +kernel
  have hgreatest : limit * 5 ^ places ≤ 10 ^ (1384 : Nat) := by decide +kernel
  have hlower : 10 ^ (743 : Nat) ≤ m.decimalUnits :=
    Nat.le_trans hleast (Nat.le_mul_of_pos_left _ hm)
  have hupper : m.decimalUnits < 10 ^ (1384 : Nat) :=
    Nat.lt_of_lt_of_le (Nat.mul_lt_mul_of_pos_right m.bounded (Nat.pow_pos (by decide))) hgreatest
  have hmany : ¬(Nat.toDigits 10 m.decimalUnits).length ≤ 743 := by
    rw [Nat.length_toDigits_le_iff (by decide) (by decide)]
    omega
  have hfew : (Nat.toDigits 10 m.decimalUnits).length ≤ 1384 :=
    (Nat.length_toDigits_le_iff (by decide) (by decide)).mpr hupper
  have hpoint : m.exact.point = (Nat.toDigits 10 m.decimalUnits).length + -(places : Int) := rfl
  have hplaces : places = 1074 := rfl
  omega

/-- All digits of a magnitude are a quotient of whole units that is its own. -/
lemma ofQuotient_exact (m : Magnitude) :
    Binary64.ofQuotient false m.exact (2 ^ places) = .finite false m := by
  have hwhole : m.exact.exponent.toNat = 0 := by
    show (-(places : Int)).toNat = 0
    omega
  have hplaces : (-m.exact.exponent).toNat = places := by
    show (- -(places : Int)).toNat = places
    omega
  have hnumerator : m.exact.coefficient * 10 ^ 0 * 2 ^ places = m.units * 10 ^ places := by
    show m.units * 5 ^ places * 10 ^ 0 * 2 ^ places = m.units * 10 ^ places
    rw [Nat.pow_zero, Nat.mul_one, Nat.mul_assoc, ← Nat.mul_pow]
  have hten : 0 < 10 ^ places := Nat.pow_pos (by decide)
  rw [Binary64.ofQuotient, hwhole, hplaces, hnumerator]
  have hscaled := Binary64.ofRatio_mul false m.units 1 hten
  rw [Nat.one_mul] at hscaled
  rw [hscaled, Binary64.ofRatio_eq_finite_iff]
  exact m.nearest?_units

/-- **All digits of a magnitude** read back as the magnitude. -/
theorem reads_exact (m : Magnitude) : m.reads m.exact = true := by
  rw [reads, decide_eq_true_iff, Binary64.ofDecimal_eq]
  rcases Nat.eq_zero_or_pos m.units with hzero | hpos
  · have hcoefficient : m.exact.coefficient = 0 := by
      show m.units * 5 ^ places = 0
      rw [hzero, Nat.zero_mul]
    have hm : zero = m := units_injective hzero.symm
    rw [if_pos (.inl hcoefficient), hm]
  · obtain ⟨hlower, hupper⟩ := point_exact hpos
    have hcoefficient : 0 < m.exact.coefficient := Nat.mul_pos hpos (Nat.pow_pos (by decide))
    have hplaces : 1074 = places := rfl
    rw [if_neg (by omega), if_neg (by omega), hplaces]
    exact m.ofQuotient_exact

/-- **The shortest decimal** stands for the magnitude, with either sign. -/
theorem ofDecimal_shortest (negative : Bool) (m : Magnitude) :
    Binary64.ofDecimal negative m.shortest = .finite negative m := by
  have hreads : m.reads m.shortest = true := reads_shortest m.reads_exact
  exact Binary64.ofDecimal_negative (decide_eq_true_iff.mp hreads) negative

end Magnitude

/-! ### Texts of doubles -/

namespace Binary64

/-- Whether a double is neither an infinity nor the NaN. -/
def isFinite : Binary64 → Bool
  | nan => false
  | infinite _ => false
  | finite _ _ => true

/-- **The text of a finite double** is numeric and stands for that double, the sign of a zero
included. -/
theorem ofNumericText?_finite (negative : Bool) (m : Magnitude) :
    ofNumericText? (finite negative m).text = some (finite negative m) := by
  have hnumeral := isNumeral_text negative m
  calc ofNumericText? (finite negative m).text
      = read? (finite negative m).text.toList :=
        ofNumericText?_padded hnumeral (p := []) (q := []) nofun nofun (by simp)
    _ = some (ofDecimal negative m.shortest) := by
        rw [text, String.toList_ofList, Decimal.read?_positional]
    _ = some (finite negative m) := by rw [m.ofDecimal_shortest]

/-- **The text of a double** is numeric if the double is finite, and then it stands for it. -/
theorem ofNumericText?_text (x : Binary64) :
    ofNumericText? x.text = if x.isFinite then some x else none := by
  cases x with
  | nan => decide
  | infinite negative => cases negative <;> decide
  | finite negative m => exact ofNumericText?_finite negative m

end Binary64

end Condition
