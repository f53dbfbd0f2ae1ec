/-
The laws of the two equalities.

* `Binary64.equals_eq`: doubles are equal if they stand at one place of the line;
* `Value.strictlyEqual_comm`, `Value.looselyEqual_comm`, `Value.looselyEqual_of_strictlyEqual`:
  both equalities are symmetric, and strict equality implies the loose one;
* `Value.Plain`, `Value.standing`: the strings and the finite numbers, and what they are
  compared by: the place of the number that a value stands for, or else its text;
* `Value.looselyEqual_iff_standing`: loose equality of such values is equality of that, and
  so an equivalence (`Value.equality_laws`).
-/
import Mathlib.Logic.Relation
import Condition.Proofs.Number.ReadBack
import Condition.Value.Equality

namespace Condition

/-! ### Equality of doubles -/

namespace Binary64

/-- Every double but the NaN stands somewhere. -/
lemma exists_place {x : Binary64} (h : x ≠ nan) : ∃ p, x.place? = some p := by
  cases x with
  | nan => exact absurd rfl h
  | infinite | finite => exact ⟨_, rfl⟩

/-- **Doubles are equal** if they stand at one place. -/
lemma equals_eq {x y : Binary64} {p q : Int} (hx : x.place? = some p) (hy : y.place? = some q) :
    x.equals y = (p == q) := by
  rw [equals, related, hx, hy]

lemma equals_comm (x y : Binary64) : x.equals y = y.equals x := by
  unfold equals related
  cases x.place? with
  | none => cases y.place? <;> rfl
  | some p =>
      cases y.place? with
      | none => rfl
      | some q => exact Bool.beq_comm

/-- Every double but the NaN equals itself. -/
lemma equals_self {x : Binary64} (h : x ≠ nan) : x.equals x = true := by
  obtain ⟨p, hp⟩ := exists_place h
  rw [equals_eq hp hp, beq_self_eq_true]

end Binary64

namespace Value

/-! ### Symmetry -/

/-- **Strict equality is symmetric.** -/
lemma strictlyEqual_comm (l r : Value) : l.strictlyEqual r = r.strictlyEqual l := by
  cases l with
  | boolean a =>
      cases r with
      | boolean b => exact Bool.beq_comm
      | number | string => rfl
  | number a =>
      cases r with
      | number b => exact Binary64.equals_comm a b
      | boolean | string => rfl
  | string s =>
      cases r with
      | string t => exact Bool.beq_comm
      | boolean | number => rfl

lemma stringsLooselyEqual_comm (s t : String) :
    stringsLooselyEqual s t = stringsLooselyEqual t s := by
  unfold stringsLooselyEqual
  cases Binary64.ofNumericText? s with
  | none => cases Binary64.ofNumericText? t <;> exact Bool.beq_comm
  | some x =>
      cases Binary64.ofNumericText? t with
      | none => exact Bool.beq_comm
      | some y => exact Binary64.equals_comm x y

/-- **Loose equality is symmetric.** -/
lemma looselyEqual_comm (l r : Value) : l.looselyEqual r = r.looselyEqual l := by
  cases l with
  | boolean a =>
      cases r with
      | boolean b => exact Bool.beq_comm
      | number | string => rfl
  | number a =>
      cases r with
      | number b => exact Binary64.equals_comm a b
      | boolean | string => rfl
  | string s =>
      cases r with
      | string t => exact stringsLooselyEqual_comm s t
      | boolean | number => rfl

/-- A string is loosely equal to itself: no numeric string stands for the NaN. -/
lemma stringsLooselyEqual_self (s : String) : stringsLooselyEqual s s = true := by
  unfold stringsLooselyEqual
  cases h : Binary64.ofNumericText? s with
  | none => exact beq_self_eq_true s
  | some x => exact Binary64.equals_self (Binary64.ne_nan_of_ofNumericText? h)

/-- **Strict equality implies loose equality.** -/
lemma looselyEqual_of_strictlyEqual {l r : Value} (h : l.strictlyEqual r = true) :
    l.looselyEqual r = true := by
  cases l with
  | boolean a =>
      cases r with
      | boolean b => exact h
      | number | string => cases h
  | number a =>
      cases r with
      | number b => exact h
      | boolean | string => cases h
  | string s =>
      cases r with
      | string t =>
          obtain rfl := eq_of_beq h
          exact stringsLooselyEqual_self s
      | boolean | number => cases h

/-! ### Strings and finite numbers -/

/-- The value is a string or a finite number. -/
inductive Plain : Value → Prop where
  | string (s : String) : Plain (string s)
  | finite (negative : Bool) (m : Magnitude) : Plain (number (.finite negative m))

/-- Where the number stands that a value is, or is the text of. -/
def place? : Value → Option Int
  | boolean _ => none
  | number n => n.place?
  | string s => (Binary64.ofNumericText? s).bind Binary64.place?

/-- **What a value is compared by**: the place of the number that it stands for, or else its
text. -/
def standing (v : Value) : Int ⊕ String :=
  match v.place? with
  | some p => .inl p
  | none => .inr v.text

lemma standing_of_place {v : Value} {p : Int} (h : v.place? = some p) : v.standing = .inl p := by
  rw [standing, h]

/-- A string is numeric and stands somewhere, or it is compared by its text. -/
lemma place?_string (s : String) :
    (∃ x p, Binary64.ofNumericText? s = some x ∧ x.place? = some p ∧
      (string s).place? = some p) ∨
    Binary64.ofNumericText? s = none ∧ (string s).standing = .inr s := by
  cases h : Binary64.ofNumericText? s with
  | none =>
      right
      refine ⟨rfl, ?_⟩
      rw [standing, place?, h]
      rfl
  | some x =>
      obtain ⟨p, hp⟩ := Binary64.exists_place (Binary64.ne_nan_of_ofNumericText? h)
      left
      refine ⟨x, p, rfl, hp, ?_⟩
      rw [place?, h, Option.bind_some, hp]

/-- A finite number stands somewhere. -/
lemma place?_finite (negative : Bool) (m : Magnitude) :
    ∃ p, (Binary64.finite negative m).place? = some p := ⟨_, rfl⟩

/-- A text that is not numeric is not the text of a finite number. -/
lemma text_ne_of_not_numeric {negative : Bool} {m : Magnitude} {s : String}
    (h : Binary64.ofNumericText? s = none) : (Binary64.finite negative m).text ≠ s := by
  rintro rfl
  rw [Binary64.ofNumericText?_finite] at h
  cases h

/-- A finite number and a string are loosely equal if they are compared by the same. -/
lemma numberEqualsString_iff {negative : Bool} {m : Magnitude} {s : String} :
    numberEqualsString (.finite negative m) s = true ↔
      (number (.finite negative m)).standing = (string s).standing := by
  obtain ⟨p, hp⟩ := place?_finite negative m
  rw [standing_of_place (v := number (.finite negative m)) hp, numberEqualsString]
  rcases place?_string s with ⟨x, q, hx, hxq, hs⟩ | ⟨hs, hstanding⟩
  · rw [standing_of_place hs, hx]
    simp only [Binary64.equals_eq hxq hp, beq_iff_eq, Sum.inl.injEq]
    exact eq_comm
  · rw [hstanding, hs]
    simp [text_ne_of_not_numeric hs]

/-- Two strings are loosely equal if they are compared by the same. -/
lemma stringsLooselyEqual_iff {s t : String} :
    stringsLooselyEqual s t = true ↔ (string s).standing = (string t).standing := by
  rw [stringsLooselyEqual]
  rcases place?_string s with ⟨x, p, hx, hxp, hs⟩ | ⟨hs, hstanding⟩ <;>
    rcases place?_string t with ⟨y, q, hy, hyq, ht⟩ | ⟨ht, hstanding'⟩
  · rw [standing_of_place hs, standing_of_place ht, hx, hy]
    simp [Binary64.equals_eq hxp hyq]
  -- where one of them is numeric and the other is not, they are not the same text
  · have hne : s ≠ t := by
      rintro rfl
      rw [hx] at ht
      cases ht
    rw [standing_of_place hs, hstanding', hx, ht]
    simp [hne]
  · have hne : s ≠ t := by
      rintro rfl
      rw [hs] at hy
      cases hy
    rw [hstanding, standing_of_place ht, hs, hy]
    simp [hne]
  · rw [hstanding, hstanding', hs, ht]
    simp

/-- **Strings and finite numbers are loosely equal** if they are compared by the same. -/
theorem looselyEqual_iff_standing {l r : Value} (hl : l.Plain) (hr : r.Plain) :
    l.looselyEqual r = true ↔ l.standing = r.standing := by
  cases hl with
  | string s =>
      cases hr with
      | string t => exact stringsLooselyEqual_iff
      | finite negative m => exact numberEqualsString_iff.trans eq_comm
  | finite negative m =>
      cases hr with
      | string t => exact numberEqualsString_iff
      | finite negative' m' =>
          obtain ⟨p, hp⟩ := place?_finite negative m
          obtain ⟨q, hq⟩ := place?_finite negative' m'
          rw [standing_of_place (v := number (.finite negative m)) hp,
            standing_of_place (v := number (.finite negative' m')) hq, looselyEqual,
            Binary64.equals_eq hp hq, beq_iff_eq, Sum.inl.injEq]

/-- **The laws of the two equalities.** Both are symmetric, and values that are strictly equal
are loosely equal, whatever their types are and also for the NaN, the infinities and both
zeros. On the strings and the finite numbers taken together loose equality is reflexive,
symmetric and transitive. -/
theorem equality_laws :
    (∀ l r : Value, l.strictlyEqual r = r.strictlyEqual l) ∧
      (∀ l r : Value, l.looselyEqual r = r.looselyEqual l) ∧
      (∀ l r : Value, l.strictlyEqual r = true → l.looselyEqual r = true) ∧
      Equivalence fun l r : {v : Value // v.Plain} => l.1.looselyEqual r.1 = true := by
  refine ⟨strictlyEqual_comm, looselyEqual_comm, fun l r => looselyEqual_of_strictlyEqual, ?_⟩
  have hstanding : ∀ l r : {v : Value // v.Plain},
      l.1.looselyEqual r.1 = true ↔ l.1.standing = r.1.standing :=
    fun l r => looselyEqual_iff_standing l.2 r.2
  simp only [hstanding]
  exact eq_equivalence.comap fun v : {v : Value // v.Plain} => v.1.standing

/-- An infinity would break this: both texts are loosely equal to it, and not to each
other. -/
example :
    looselyEqual (string "inf") (number (.infinite false)) = true ∧
      looselyEqual (number (.infinite false)) (string "1e999") = true ∧
      looselyEqual (string "inf") (string "1e999") = false := by
  decide +kernel

/-! ### The text of a number -/

/-- A number is loosely equal to its own text. -/
lemma numberEqualsString_text (n : Binary64) : numberEqualsString n n.text = true := by
  rw [numberEqualsString, Binary64.ofNumericText?_text]
  cases n with
  -- these texts are names, and are compared as texts
  | nan => exact beq_self_eq_true _
  | infinite => exact beq_self_eq_true _
  | finite => exact Binary64.equals_self nofun

/-- **Every number is loosely equal to its own text**, in both orders, the NaN, the infinities
and both zeros included. The text of a finite number is numeric and stands for that number;
those of the others are not numeric, and are compared as they are written. -/
theorem looselyEqual_text (n : Binary64) :
    (number n).looselyEqual (string (number n).text) = true ∧
      (string (number n).text).looselyEqual (number n) = true ∧
      Binary64.ofNumericText? (number n).text = if n.isFinite then some n else none :=
  ⟨numberEqualsString_text n, numberEqualsString_text n, n.ofNumericText?_text⟩

end Value

end Condition
