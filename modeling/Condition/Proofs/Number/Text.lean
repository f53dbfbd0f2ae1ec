/-
The text of a finite double is a numeral.

* `Pattern.Matches.isNumeral`: digits, perhaps with a point and more digits, are a numeral
  behind any sign;
* `Decimal.matches_positional`: a decimal that is written out consists of such digits;
* `Binary64.isNumeral_text`: so the text of a finite double is a numeral.
-/
import Condition.Number.Shortest
import Condition.Proofs.Number.NumericText

namespace Condition

/-- Digits, perhaps with a point and digits behind it, are a numeral behind any sign. -/
lemma Pattern.Matches.isNumeral {cs : List Char} (h : Pattern.number.Matches cs)
    {negative : Bool} {sign : List Char} (hs : Numeral.Sign negative sign) :
    IsNumeral (sign ++ cs) := by
  obtain ⟨whole, fraction, hm⟩ : ∃ whole fraction, Numeral.Mantissa whole fraction cs := by
    cases h with
    | whole h => exact ⟨_, _, .whole h⟩
    | decimal h hf => exact ⟨_, _, .pointed h hf.2⟩
  have hwritten := Numeral.Written.mk hs hm .absent
  rw [List.append_nil] at hwritten
  exact ⟨_, hwritten⟩

/-! ### Decimals written out -/

/-- A natural number is written in digits. -/
lemma digits_toDigits (n : Nat) : Digits (Nat.toDigits 10 n) :=
  ⟨Nat.toDigits_ne_nil, fun _ hc => Nat.isDigit_of_mem_toDigits (by decide) (by decide) hc⟩

namespace Decimal

/-- What stands behind the point are digits. -/
lemma isDigit_of_mem_fractionDigits {n places : Nat} {c : Char}
    (hc : c ∈ fractionDigits n places) : c.isDigit = true := by
  have hmem : c ∈ List.replicate (places - (Nat.toDigits 10 n).length) '0' ++ Nat.toDigits 10 n :=
    List.mem_reverse.mp ((List.dropWhile_sublist _).subset (List.mem_reverse.mp hc))
  rcases List.mem_append.mp hmem with hzero | hdigit
  · rw [List.eq_of_mem_replicate hzero]
    rfl
  · exact (digits_toDigits n).2 c hdigit

/-- **A decimal written out** consists of digits, perhaps with a point and digits behind
it. -/
theorem matches_positional (d : Decimal) : Pattern.number.Matches d.positional := by
  simp only [positional]
  split
  · rw [List.append_nil]
    exact .whole (digits_toDigits _)
  · rename_i hfraction
    exact .decimal (digits_toDigits _) ⟨hfraction, fun _ hc => isDigit_of_mem_fractionDigits hc⟩

end Decimal

/-! ### Texts of doubles -/

namespace Binary64

/-- The sign in front of a text is that of a numeral. -/
lemma exists_signed (negative : Bool) (cs : List Char) :
    ∃ sign, Numeral.Sign negative sign ∧ signed negative cs = sign ++ cs := by
  cases negative with
  | false => exact ⟨[], .absent, rfl⟩
  | true => exact ⟨['-'], .minus, rfl⟩

/-- **The text of a finite double** is a numeral. -/
theorem isNumeral_text (negative : Bool) (m : Magnitude) :
    IsNumeral (finite negative m).text.toList := by
  obtain ⟨sign, hs, hsigned⟩ := exists_signed negative m.shortest.positional
  rw [text, String.toList_ofList, hsigned]
  exact m.shortest.matches_positional.isNumeral hs

end Binary64

end Condition
