/-
Numeric strings: numerals between blanks.

* `Padding`, `Trimmed`: the blanks around a numeric string, and what is left of a text
  without them; `trimmed_iff`: that is one text, the one that `trim` gives;
* `Binary64.ofNumericText?_eq_some_iff`: a text is numeric if what is left of it is a numeral,
  and then it stands for the double that this numeral is read as;
* `Binary64.numeric_text_exact`: the same with the characters of the text.
-/
import Mathlib.Data.List.DropRight
import Condition.Proofs.Number.Numeral

namespace Condition

open Binary64 (isPadding trim isNumericChar)

/-! ### Blanks around a text -/

/-- All characters may stand around a numeric string. -/
def Padding (cs : List Char) : Prop := ∀ c ∈ cs, isPadding c = true

/-- **What is left of a text** when all padding is taken off both ends. -/
structure Trimmed (cs body : List Char) : Prop where
  exists_padding : ∃ p q, Padding p ∧ Padding q ∧ cs = p ++ (body ++ q)
  head : ∀ c ∈ body.head?, isPadding c = false
  last : ∀ c ∈ body.getLast?, isPadding c = false

/-- Trimming takes padding off the front, and then off the end. -/
lemma trim_eq (cs : List Char) : trim cs = (cs.dropWhile isPadding).rdropWhile isPadding := rfl

/-- Padding at the end goes with all that is taken off there. -/
lemma Padding.rdropWhile_append {q : List Char} (hq : Padding q) (cs : List Char) :
    (cs ++ q).rdropWhile isPadding = cs.rdropWhile isPadding := by
  have hreverse : ∀ c ∈ q.reverse, isPadding c = true := fun c hc => hq c (List.mem_reverse.mp hc)
  rw [List.rdropWhile, List.rdropWhile, List.reverse_append,
    List.dropWhile_append_of_pos hreverse]

/-- **Trimming does not depend on the padding.** -/
lemma trim_padded {p q : List Char} (hp : Padding p) (hq : Padding q) (cs : List Char) :
    trim (p ++ (cs ++ q)) = trim cs := by
  rw [trim_eq, trim_eq, List.dropWhile_append_of_pos hp, List.dropWhile_append]
  split
  · rename_i hnil
    have hq : q.dropWhile isPadding = [] := List.dropWhile_eq_nil_iff.mpr hq
    rw [hq, List.isEmpty_iff.mp hnil]
  · exact hq.rdropWhile_append _

/-- A text with no padding at its ends is left as it is. -/
lemma trim_eq_self {cs : List Char} (hhead : ∀ c ∈ cs.head?, isPadding c = false)
    (hlast : ∀ c ∈ cs.getLast?, isPadding c = false) : trim cs = cs := by
  have hdrop : cs.dropWhile isPadding = cs := by
    cases cs with
    | nil => rfl
    | cons c cs => exact List.dropWhile_cons_of_neg (by simp [hhead c rfl])
  rw [trim_eq, hdrop, List.rdropWhile_eq_self_iff]
  intro hne
  rw [hlast _ (List.getLast?_eq_getLast_of_ne_nil hne)]
  exact Bool.false_ne_true

/-- Trimming leaves no padding at the ends. -/
lemma trimmed_trim (cs : List Char) : Trimmed cs (trim cs) := by
  have hfront := List.takeWhile_append_dropWhile (p := isPadding) (l := cs)
  have hend := List.rdropWhile_append_rtakeWhile (p := isPadding) (l := cs.dropWhile isPadding)
  refine ⟨⟨cs.takeWhile isPadding, (cs.dropWhile isPadding).rtakeWhile isPadding,
    fun _ hc => List.mem_takeWhile_imp hc, fun _ hc => List.mem_rtakeWhile_imp hc, ?_⟩, ?_, ?_⟩
  · rw [trim_eq, hend, hfront]
  · -- what is taken off the end leaves the first character where it is
    intro c hc
    obtain ⟨rest, hrest⟩ := List.rdropWhile_prefix isPadding (cs.dropWhile isPadding)
    have hhead : (cs.dropWhile isPadding).head? = some c := by
      rw [trim_eq] at hc
      rw [← hrest, List.head?_append, Option.mem_def.mp hc]
      rfl
    exact endsClass_dropWhile isPadding cs c hhead
  · intro c hc
    obtain ⟨hne, rfl⟩ := List.mem_getLast?_eq_getLast hc
    exact Bool.eq_false_iff.mpr (List.rdropWhile_last_not isPadding _ hne)

/-- **One text is left** when all padding is taken off both ends. -/
theorem trimmed_iff {cs body : List Char} : Trimmed cs body ↔ body = trim cs := by
  constructor
  · rintro ⟨⟨p, q, hp, hq, rfl⟩, hhead, hlast⟩
    rw [trim_padded hp hq, trim_eq_self hhead hlast]
  · rintro rfl
    exact trimmed_trim cs

/-! ### The characters of numerals -/

lemma isNumericChar_of_isDigit {c : Char} (h : c.isDigit = true) : isNumericChar c = true := by
  simp [isNumericChar, h]

lemma all_isNumericChar_of_digits {ds : List Char} (h : ∀ c ∈ ds, c.isDigit = true) :
    ds.all isNumericChar = true :=
  List.all_eq_true.mpr fun c hc => isNumericChar_of_isDigit (h c hc)

lemma Digits.any_isDigit {ds : List Char} (h : Digits ds) : ds.any Char.isDigit = true := by
  obtain ⟨d, ds, rfl, hd⟩ := h.exists_cons
  rw [List.any_cons, hd, Bool.true_or]

namespace Numeral

lemma Sign.all_isNumericChar {negative : Bool} {sign : List Char} (h : Sign negative sign) :
    sign.all isNumericChar = true := by
  cases h <;> rfl

lemma Mantissa.all_isNumericChar {whole fraction m : List Char} (h : Mantissa whole fraction m) :
    m.all isNumericChar = true := by
  have hpoint : isNumericChar '.' = true := rfl
  cases h with
  | whole h => exact all_isNumericChar_of_digits h.2
  | pointed h hf =>
      rw [List.all_append, List.all_cons, all_isNumericChar_of_digits h.2,
        all_isNumericChar_of_digits hf, hpoint]
      rfl
  | fraction h => rw [List.all_cons, all_isNumericChar_of_digits h.2, hpoint]; rfl

lemma Mantissa.any_isDigit {whole fraction m : List Char} (h : Mantissa whole fraction m) :
    m.any Char.isDigit = true := by
  cases h with
  | whole h => exact h.any_isDigit
  | pointed h => rw [List.any_append, h.any_isDigit, Bool.true_or]
  | fraction h => rw [List.any_cons, h.any_isDigit, Bool.or_true]

lemma Power.all_isNumericChar {e : Int} {x : List Char} (h : Power e x) :
    x.all isNumericChar = true := by
  cases h with
  | absent => rfl
  | @marked c _ _ _ hc hs h =>
      have hmark : isNumericChar c = true := by rcases hc with rfl | rfl <;> rfl
      rw [List.all_cons, List.all_append, hs.all_isNumericChar, all_isNumericChar_of_digits h.2,
        hmark]
      rfl

end Numeral

/-- A numeral has the characters of a numeric string, and a digit among them. -/
lemma IsNumeral.numeric {cs : List Char} (h : IsNumeral cs) :
    cs.all isNumericChar = true ∧ cs.any Char.isDigit = true := by
  obtain ⟨n, hs, hm, hp⟩ := h
  constructor
  · rw [List.all_append, List.all_append, hs.all_isNumericChar, hm.all_isNumericChar,
      hp.all_isNumericChar]
    rfl
  · rw [List.any_append, List.any_append, hm.any_isDigit, Bool.true_or, Bool.or_true]

/-- Padding has none of the characters of a numeric string. -/
lemma not_isPadding_of_isNumericChar {c : Char} (h : isNumericChar c = true) :
    isPadding c = false := by
  rw [← Bool.not_eq_true]
  intro hc
  simp only [isPadding, Bool.or_eq_true, beq_iff_eq] at hc
  rcases hc with ((((rfl | rfl) | rfl) | rfl) | rfl) | rfl <;> cases h

/-- Padding is taken off a numeral, and nothing else. -/
lemma IsNumeral.trim_padded {p q cs : List Char} (h : IsNumeral cs) (hp : Padding p)
    (hq : Padding q) : trim (p ++ (cs ++ q)) = cs := by
  have hall := List.all_eq_true.mp h.numeric.1
  rw [Condition.trim_padded hp hq]
  exact trim_eq_self
    (fun c hc => not_isPadding_of_isNumericChar (hall c (List.mem_of_mem_head? hc)))
    fun c hc => not_isPadding_of_isNumericChar (hall c (List.mem_of_mem_getLast? hc))

/-- No name has the characters of a numeric string. -/
lemma IsName.not_numeric {cs : List Char} (h : IsName cs) : ¬cs.all isNumericChar = true := by
  obtain ⟨negative, sign, name, hs, rfl, hname⟩ := h
  obtain ⟨c, rest, rfl, hc⟩ := exists_letter hname
  rw [List.all_append, List.all_cons, hc, Bool.false_and, Bool.and_false]
  exact Bool.false_ne_true

/-! ### Numeric strings -/

namespace Binary64

/-- **A text is numeric** if what is left of it without padding is a numeral, and then it
stands for the double that is read off there. -/
theorem ofNumericText?_eq_some_iff {text : String} {x : Binary64} :
    ofNumericText? text = some x ↔
      IsNumeral (trim text.toList) ∧ read? (trim text.toList) = some x := by
  simp only [ofNumericText?]
  generalize trim text.toList = body
  constructor
  · intro h
    split at h
    · rename_i hnumeric
      refine ⟨?_, h⟩
      have hsome : (read? body).isSome = true := by rw [h, Option.isSome_some]
      rcases isSome_read?.mp hsome with hnumeral | hname
      · exact hnumeral
      · -- the names are read too, but they are no numeric strings
        exact absurd (Bool.and_eq_true_iff.mp hnumeric).1 hname.not_numeric
    · cases h
  · rintro ⟨hnumeral, hread⟩
    rw [if_pos (Bool.and_eq_true_iff.mpr hnumeral.numeric), hread]

/-- **A numeral with padding** stands for the double that it is read as. -/
lemma ofNumericText?_padded {text : String} {p q cs : List Char} (h : IsNumeral cs)
    (hp : Padding p) (hq : Padding q) (htext : text.toList = p ++ (cs ++ q)) :
    ofNumericText? text = read? cs := by
  have hbody : trim text.toList = cs := by rw [htext, h.trim_padded hp hq]
  obtain ⟨x, hx, -⟩ := exists_read? h
  rw [hx, ofNumericText?_eq_some_iff, hbody]
  exact ⟨h, hx⟩

/-- A numeric string stands for a number, which is not the NaN. -/
lemma ne_nan_of_ofNumericText? {text : String} {x : Binary64} (h : ofNumericText? text = some x) :
    x ≠ nan := by
  obtain ⟨hnumeral, hread⟩ := ofNumericText?_eq_some_iff.mp h
  obtain ⟨y, hy, hne⟩ := exists_read? hnumeral
  rw [hread] at hy
  exact Option.some.inj hy ▸ hne

/-- **Numeric strings, exactly.** Of every text one text is left when all padding is taken off
both ends. The text is numeric if and only if that is a numeral: a sign or none, digits
with or without a point and more digits, or a point and digits, and perhaps `e` with a sign
or none and digits. It then stands for the double that the numeral is read as, which is not
the NaN, and it stands for the same, or is not numeric either, with any other padding. -/
theorem numeric_text_exact (text : String) :
    ∃ body, (∀ b, Trimmed text.toList b ↔ b = body) ∧
      ((ofNumericText? text).isSome = true ↔ IsNumeral body) ∧
      (∀ x, ofNumericText? text = some x → read? body = some x ∧ x ≠ nan) ∧
      ∀ other : String, Trimmed other.toList body → ofNumericText? other = ofNumericText? text := by
  refine ⟨trim text.toList, fun b => trimmed_iff, ⟨?_, ?_⟩, ?_, ?_⟩
  · intro h
    obtain ⟨x, hx⟩ := Option.isSome_iff_exists.mp h
    exact (ofNumericText?_eq_some_iff.mp hx).1
  · intro h
    obtain ⟨x, hx, -⟩ := exists_read? h
    rw [ofNumericText?_eq_some_iff.mpr ⟨h, hx⟩, Option.isSome_some]
  · exact fun x hx => ⟨(ofNumericText?_eq_some_iff.mp hx).2, ne_nan_of_ofNumericText? hx⟩
  · intro other hother
    rw [ofNumericText?, ofNumericText?, ← trimmed_iff.mp hother]

end Binary64

end Condition
