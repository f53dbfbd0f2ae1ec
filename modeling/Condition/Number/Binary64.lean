/-
Double-precision numbers, exactly. A finite double is a sign and a whole
number of units of `2 ^ -1074`, the least positive double.

* `Magnitude`: the numbers of units that doubles have: below `2 ^ 2098`, with
  at most 53 significant bits; `Magnitude.scaled` makes one of `k * 2 ^ s` with
  `k ≤ 2 ^ 53`;
* `Binary64`: a NaN, the infinities and the finite doubles of both signs;
* `Binary64.ofBits`, `Binary64.toBits`: the interchange format;
* `Binary64.place?`: where a double stands on the line, from which `equals`,
  `less` and `lessOrEqual` are read off.
-/

namespace Condition

-- Powers are core's own, also beside a library that brings another instance; an
-- exponent that is a numeral names its type for that.
attribute [local instance (high)] instPowNat

/-! ### Magnitudes -/

/-- How far the 53 significant bits of a double can be shifted to the left. -/
def Magnitude.shifts : Nat := 2045

/-- The number of units of the least power of two that no double reaches. -/
def Magnitude.limit : Nat := 2 ^ (53 + Magnitude.shifts)

/-- The absolute value of a finite double, in units of `2 ^ -1074`: below the
limit, and a multiple of the power of two that leaves 53 significant bits. -/
structure Magnitude where
  units : Nat
  bounded : units < Magnitude.limit
  significant : 2 ^ (units.log2 - 52) ∣ units
deriving DecidableEq

namespace Magnitude

theorem limit_pos : 0 < limit := by
  rw [limit]
  apply Nat.pow_pos
  decide

/-- 53 significant bits that are shifted no further than allowed stay below the
limit. -/
theorem scaled_lt_limit {k s : Nat} (hk : k < 2 ^ (53 : Nat)) (hs : s ≤ shifts) :
    k * 2 ^ s < limit := by
  have hbits : k * 2 ^ s < 2 ^ (53 : Nat) * 2 ^ s :=
    Nat.mul_lt_mul_of_pos_right hk (Nat.two_pow_pos s)
  have hshift : 2 ^ (53 : Nat) * 2 ^ s ≤ 2 ^ (53 : Nat) * 2 ^ shifts :=
    Nat.mul_le_mul_left _ (Nat.pow_le_pow_right (by decide) hs)
  have hlimit : limit = 2 ^ (53 : Nat) * 2 ^ shifts := by rw [limit, Nat.pow_add]
  rw [hlimit]
  exact Nat.lt_of_lt_of_le hbits hshift

/-- A number of at most 53 significant bits stays one when it is shifted. -/
theorem significant_scaled {k : Nat} (s : Nat) (hk : k ≤ 2 ^ (53 : Nat)) :
    2 ^ ((k * 2 ^ s).log2 - 52) ∣ k * 2 ^ s := by
  by_cases h0 : k = 0
  · simp [h0]
  have hpos : k * 2 ^ s ≠ 0 := Nat.mul_ne_zero h0 (Nat.pos_iff_ne_zero.1 (Nat.two_pow_pos s))
  rcases Nat.lt_or_eq_of_le hk with hlt | rfl
  · have hlog : (k * 2 ^ s).log2 < 53 + s := by
      rw [Nat.log2_lt hpos, Nat.pow_add]
      exact Nat.mul_lt_mul_of_pos_right hlt (Nat.two_pow_pos s)
    exact Nat.dvd_trans (Nat.pow_dvd_pow 2 (by omega)) (Nat.dvd_mul_left _ _)
  · rw [← Nat.pow_add, Nat.log2_two_pow]
    exact Nat.pow_dvd_pow 2 (by omega)

/-- The magnitude of `k * 2 ^ s` units. -/
def scaled (k s : Nat) (hk : k ≤ 2 ^ (53 : Nat)) (h : k * 2 ^ s < limit) : Magnitude :=
  ⟨k * 2 ^ s, h, significant_scaled s hk⟩

/-- The magnitude of zero. -/
def zero : Magnitude := ⟨0, limit_pos, by simp⟩

/-- The bits of a magnitude in the interchange format, without a sign. A shift by `s` puts `s + 1` into
the exponent, and the leading bit of the shifted number is left out. -/
def bits (m : Magnitude) : Nat :=
  if m.units < 2 ^ (52 : Nat) then m.units
  else
    let shift := m.units.log2 - 52
    (shift + 1) * 2 ^ (52 : Nat) + (m.units / 2 ^ shift - 2 ^ (52 : Nat))

end Magnitude

/-! ### Doubles -/

/-- A double-precision number. All NaNs are one. -/
inductive Binary64 where
  | nan
  | infinite (negative : Bool)
  | finite (negative : Bool) (magnitude : Magnitude)
deriving DecidableEq

namespace Binary64

/-- The positive zero. -/
def zero : Binary64 := finite false .zero

/-- The double with the other sign. -/
def negate : Binary64 → Binary64
  | nan => nan
  | infinite negative => infinite (!negative)
  | finite negative m => finite (!negative) m

/-! ### The interchange format -/

/-- The double of a pattern of 64 bits: a sign, an exponent of 11 bits and a
fraction of 52. The least exponent holds the subnormal doubles, the greatest
one the infinities and NaNs. -/
def ofBits (bits : UInt64) : Binary64 :=
  let negative := bits.toNat / 2 ^ (63 : Nat) == 1
  let exponent := bits.toNat / 2 ^ (52 : Nat) % 2 ^ (11 : Nat)
  let fraction := bits.toNat % 2 ^ (52 : Nat)
  have hf : fraction < 2 ^ (52 : Nat) := Nat.mod_lt _ (Nat.two_pow_pos 52)
  have he : exponent < 2 ^ (11 : Nat) := Nat.mod_lt _ (Nat.two_pow_pos 11)
  if _ : exponent = 2047 then
    if fraction = 0 then infinite negative else nan
  else if exponent = 0 then
    finite negative (.scaled fraction 0 (by omega)
      (Magnitude.scaled_lt_limit (by omega) (Nat.zero_le _)))
  else
    finite negative (.scaled (2 ^ (52 : Nat) + fraction) (exponent - 1) (by omega)
      (Magnitude.scaled_lt_limit (by omega) (by unfold Magnitude.shifts; omega)))

/-- The pattern of 64 bits of a double; a NaN has the quiet pattern. -/
def toBits : Binary64 → UInt64
  | nan => 0x7ff8000000000000
  | infinite negative => if negative then 0xfff0000000000000 else 0x7ff0000000000000
  | finite negative m =>
    UInt64.ofNat (m.bits + if negative then 2 ^ (63 : Nat) else 0)

/-! ### Order -/

/-- Where a double stands on the line, in units of `2 ^ -1074`; the infinities
stand where the next power of two would be, and a NaN stands nowhere. -/
def place? : Binary64 → Option Int
  | nan => none
  | infinite negative => some (if negative then -Magnitude.limit else Magnitude.limit)
  | finite negative m => some (if negative then -m.units else m.units)

/-- Whether the places of both doubles are related; no relation holds of a
NaN. -/
def related (holds : Int → Int → Bool) (x y : Binary64) : Bool :=
  match x.place?, y.place? with
  | some a, some b => holds a b
  | _, _ => false

/-- Numerical equality: the zeros are equal, and a NaN equals nothing. -/
def equals (x y : Binary64) : Bool := related (fun a b => a == b) x y

/-- Whether `x` is less than `y`. -/
def less (x y : Binary64) : Bool := related (fun a b => a < b) x y

/-- Whether `x` is less than or equal to `y`. -/
def lessOrEqual (x y : Binary64) : Bool := related (fun a b => a ≤ b) x y

end Binary64

end Condition
