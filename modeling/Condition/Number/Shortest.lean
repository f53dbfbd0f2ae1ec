/-
The shortest decimal text of a double: of all decimals that read back as the
double those with the fewest digits, and of these the nearest.

* `Magnitude.exact`: a magnitude as a decimal, all its digits;
* `Magnitude.rounded?`: the best decimal with a given number of digits, if one of
  the two neighbours on that grid reads back;
* `Magnitude.shortest`: the first grid with such a neighbour; `reads_shortest`
  says that it reads back, as soon as the exact digits do;
* `Decimal.positional`: a decimal without a power of ten;
* `Binary64.text`: the text of a double.
-/
import Condition.Number.Decimal

namespace Condition

-- Powers are core's own, also beside a library that brings another instance; an
-- exponent that is a numeral names its type for that.
attribute [local instance (high)] instPowNat

namespace Magnitude

/-! ### The shortest decimal -/

/-- The number of decimal places of `2 ^ -1074`. -/
def places : Nat := 1074

/-- The magnitude in units of `10 ^ -1074`: a whole number, as `2 ^ -1074` is
`5 ^ 1074` of them. -/
def decimalUnits (m : Magnitude) : Nat := m.units * 5 ^ places

/-- The magnitude as a decimal with all its digits. -/
def exact (m : Magnitude) : Decimal := ⟨m.decimalUnits, -(places : Int)⟩

/-- Whether a decimal reads back as the magnitude. -/
def reads (m : Magnitude) (d : Decimal) : Bool :=
  Binary64.ofDecimal false d = .finite false m

/-- The grid of decimals that leaves out the last `cut` digits of the magnitude:
the neighbour that reads back, the nearer one if both do, and the upper one if
both are equally near. -/
def rounded? (m : Magnitude) (cut : Nat) : Option Decimal :=
  let below : Decimal := ⟨m.decimalUnits / 10 ^ cut, (cut : Int) - places⟩
  let above : Decimal := ⟨m.decimalUnits / 10 ^ cut + 1, (cut : Int) - places⟩
  if m.reads below && (!m.reads above || 2 * (m.decimalUnits % 10 ^ cut) < 10 ^ cut) then some below
  else if m.reads above then some above
  else none

/-- The shortest decimal that reads back: the answer of the first grid, from the
coarsest on, that has one. -/
def shortest (m : Magnitude) : Decimal :=
  let digits := (Nat.toDigits 10 m.decimalUnits).length
  ((List.range digits).findSome? fun n => m.rounded? (digits - (n + 1))).getD m.exact

theorem reads_rounded {m : Magnitude} {cut : Nat} {d : Decimal} (h : m.rounded? cut = some d) :
    m.reads d = true := by
  simp only [rounded?] at h
  split at h
  · next hb =>
    simp only [Bool.and_eq_true] at hb
    exact Option.some.inj h ▸ hb.1
  · split at h
    · next ha => exact Option.some.inj h ▸ ha
    · simp at h

/-- The shortest decimal reads back, whichever grid it comes from. -/
theorem reads_shortest {m : Magnitude} (h : m.reads m.exact = true) :
    m.reads m.shortest = true := by
  unfold shortest
  simp only
  cases hs : (List.range (Nat.toDigits 10 m.decimalUnits).length).findSome? fun n =>
      m.rounded? ((Nat.toDigits 10 m.decimalUnits).length - (n + 1)) with
  | none => simpa using h
  | some d =>
    obtain ⟨n, _, hn⟩ := List.exists_of_findSome?_eq_some hs
    simpa using reads_rounded hn

end Magnitude

/-! ### Positional text -/

/-- The digits after the point, without the zeros at their end. -/
def Decimal.fractionDigits (n places : Nat) : List Char :=
  let digits := Nat.toDigits 10 n
  ((List.replicate (places - digits.length) '0' ++ digits).reverse.dropWhile (· == '0')).reverse

/-- A decimal written out: the whole part, and a point and the rest unless that
is zero. -/
def Decimal.positional (d : Decimal) : List Char :=
  let scaled := d.coefficient * 10 ^ d.exponent.toNat
  let places := (-d.exponent).toNat
  let fraction := fractionDigits (scaled % 10 ^ places) places
  Nat.toDigits 10 (scaled / 10 ^ places)
    ++ if fraction = [] then [] else '.' :: fraction

namespace Binary64

/-- The sign in front of a text. -/
def signed (negative : Bool) (cs : List Char) : List Char :=
  if negative then '-' :: cs else cs

/-- The text of a double: the shortest decimal that reads back, never with a
power of ten; zeros and infinities keep their sign. -/
def text : Binary64 → String
  | nan => "NaN"
  | infinite negative => String.ofList (signed negative ['i', 'n', 'f'])
  | finite negative m => String.ofList (signed negative m.shortest.positional)

end Binary64

end Condition
