/-
Parentheses in a list, read from its end.

The list may be a text or a list of tokens: `paren?` says which of its elements are
parentheses.

* `excess`: how many more parentheses a list opens than it closes;
* `Settled`, `Balanced`: no end part of a list leaves a parenthesis open, and none is closed
  that the list does not open either;
* `balanced_filterMap`: which it is depends on the parentheses of the list only;
* `exists_last_opening`: a list is settled, or there is a last parenthesis with a balanced list
  behind it;
* `LastOpen`, `lastOpen_of_balanced`: that one is the last of the list that nothing closes.
-/
import Mathlib.Tactic.Lemma

namespace Condition

/-- A parenthesis. -/
inductive Paren where
  | opening
  | closing
deriving DecidableEq, Repr

/-- What an element adds to the number of open parentheses. -/
def Paren.value : Option Paren → Int
  | some opening => 1
  | some closing => -1
  | none => 0

section Lists

variable {α : Type} (paren? : α → Option Paren)

/-- How many more parentheses the list opens than it closes. -/
def excess : List α → Int
  | [] => 0
  | x :: xs => Paren.value (paren? x) + excess xs

@[simp] lemma excess_nil : excess paren? [] = 0 := rfl

@[simp] lemma excess_cons (x : α) (xs : List α) :
    excess paren? (x :: xs) = Paren.value (paren? x) + excess paren? xs := rfl

@[simp] lemma excess_append (xs ys : List α) :
    excess paren? (xs ++ ys) = excess paren? xs + excess paren? ys := by
  induction xs with
  | nil => rw [List.nil_append, excess_nil, Int.zero_add]
  | cons x xs ih => rw [List.cons_append, excess_cons, excess_cons, ih, Int.add_assoc]

/-- No end part of the list leaves a parenthesis open. -/
def Settled (xs : List α) : Prop := ∀ s, s <:+ xs → excess paren? s ≤ 0

/-- **A balanced list**: no end part of it leaves a parenthesis open, and as many are closed as
are opened. -/
structure Balanced (xs : List α) : Prop where
  excess_eq : excess paren? xs = 0
  settled : Settled paren? xs

variable {paren?} {x : α} {xs ys front back : List α}

lemma settled_nil : Settled paren? ([] : List α) := by
  intro s hs
  rw [List.suffix_nil.mp hs]
  exact Int.le_refl 0

lemma settled_cons :
    Settled paren? (x :: xs) ↔ excess paren? (x :: xs) ≤ 0 ∧ Settled paren? xs := by
  constructor
  · intro h
    exact ⟨h _ (List.suffix_refl _), fun s hs => h s (hs.trans (List.suffix_cons x xs))⟩
  · rintro ⟨hwhole, h⟩ s hs
    rcases List.suffix_cons_iff.mp hs with rfl | hs
    · exact hwhole
    · exact h s hs

/-! ### The parentheses alone -/

lemma excess_filterMap : excess some (xs.filterMap paren?) = excess paren? xs := by
  induction xs with
  | nil => rfl
  | cons x xs ih =>
      cases hx : paren? x with
      | none => rw [List.filterMap_cons_none hx, ih, excess_cons, hx, Paren.value, Int.zero_add]
      | some p => rw [List.filterMap_cons_some hx, excess_cons, excess_cons, ih, hx]

lemma settled_filterMap : Settled some (xs.filterMap paren?) ↔ Settled paren? xs := by
  induction xs with
  | nil => exact iff_of_true settled_nil settled_nil
  | cons x xs ih =>
      rw [settled_cons, ← ih, ← excess_filterMap]
      cases hx : paren? x with
      | none =>
          rw [List.filterMap_cons_none hx]
          exact ⟨fun h => ⟨h _ (List.suffix_refl _), h⟩, fun h => h.2⟩
      | some p => rw [List.filterMap_cons_some hx, settled_cons]

/-- **Only the parentheses count**: whether a list is balanced is in the parentheses that it
has. -/
lemma balanced_filterMap : Balanced some (xs.filterMap paren?) ↔ Balanced paren? xs := by
  constructor
  · rintro ⟨hexcess, hsettled⟩
    exact ⟨excess_filterMap ▸ hexcess, settled_filterMap.mp hsettled⟩
  · rintro ⟨hexcess, hsettled⟩
    exact ⟨excess_filterMap.trans hexcess, settled_filterMap.mpr hsettled⟩

/-! ### The last parenthesis that is left open -/

/-- An element opens one parenthesis at most. -/
lemma Paren.eq_opening_of_pos {p : Option Paren} (h : 0 < Paren.value p) : p = some opening := by
  rcases p with _ | ⟨_ | _⟩ <;> first | rfl | contradiction

/-- An element closes one parenthesis at most. -/
lemma Paren.eq_closing_of_neg {p : Option Paren} {k : Int} (hk : 0 ≤ k)
    (h : k + Paren.value p < 0) : p = some closing ∧ k = 0 := by
  rcases p with _ | ⟨_ | _⟩ <;> simp only [Paren.value] at h
  · omega
  · omega
  · exact ⟨rfl, by omega⟩

/-- **The last parenthesis that is left open**: a list leaves none open in any end part, or one
has a balanced list behind it. -/
theorem exists_last_opening (paren? : α → Option Paren) (xs : List α) :
    Settled paren? xs ∨
      ∃ front x back, xs = front ++ x :: back ∧ paren? x = some .opening ∧
        Balanced paren? back := by
  induction xs with
  | nil => exact .inl settled_nil
  | cons x xs ih =>
      rcases ih with hsettled | ⟨front, y, back, rfl, hy, hback⟩
      · by_cases hwhole : excess paren? (x :: xs) ≤ 0
        · exact .inl (settled_cons.mpr ⟨hwhole, hsettled⟩)
        · -- behind the element nothing is open, so it opens the one that is
          have htail := hsettled xs (List.suffix_refl xs)
          rw [excess_cons] at hwhole
          have hx := Paren.eq_opening_of_pos (p := paren? x) (by omega)
          rw [hx, Paren.value] at hwhole
          exact .inr ⟨[], x, xs, rfl, hx, by omega, hsettled⟩
      · exact .inr ⟨x :: front, y, back, rfl, hy, hback⟩

/-! ### Parentheses that nothing closes -/

variable (paren?) in
/-- The parenthesis `x`, with the list `back` behind it, is opened and not closed again: no
closing one stands behind a balanced part of what follows. -/
def LeftOpen (x : α) (back : List α) : Prop :=
  paren? x = some .opening ∧
    ∀ inner y rest, back = inner ++ y :: rest → Balanced paren? inner → paren? y ≠ some .closing

variable (paren?) in
/-- **The last parenthesis of a list that nothing closes.** -/
structure LastOpen (x : α) (back : List α) : Prop where
  leftOpen : LeftOpen paren? x back
  last : ∀ mid y rest, back = mid ++ y :: rest → ¬LeftOpen paren? y rest

/-- Where a list closes more than was open before it, it closes that behind a part which closes
what it opens itself. -/
lemma exists_closing {k : Int} (hk : 0 ≤ k) (h : k + excess paren? xs < 0) :
    ∃ inner y rest, xs = inner ++ y :: rest ∧ paren? y = some .closing ∧
      k + excess paren? inner = 0 ∧ ∀ p, p <+: inner → 0 ≤ k + excess paren? p := by
  induction xs generalizing k with
  | nil =>
      rw [excess_nil] at h
      omega
  | cons x xs ih =>
      rw [excess_cons, ← Int.add_assoc] at h
      by_cases hx : 0 ≤ k + Paren.value (paren? x)
      · obtain ⟨inner, y, rest, rfl, hy, hinner, hfront⟩ := ih hx h
        refine ⟨x :: inner, y, rest, rfl, hy, by rw [excess_cons, ← Int.add_assoc, hinner], ?_⟩
        intro p hp
        rcases List.prefix_cons_iff.mp hp with rfl | ⟨p, rfl, htail⟩
        · rw [excess_nil]
          omega
        · rw [excess_cons, ← Int.add_assoc]
          exact hfront p htail
      · obtain ⟨hclosing, rfl⟩ := Paren.eq_closing_of_neg hk (Int.not_le.mp hx)
        refine ⟨[], x, xs, rfl, hclosing, rfl, fun p hp => ?_⟩
        rw [List.prefix_nil.mp hp, excess_nil]
        exact Int.le_refl 0

/-- An opening parenthesis in a balanced list is closed again. -/
lemma Balanced.not_leftOpen (h : Balanced paren? (front ++ x :: back)) :
    ¬LeftOpen paren? x back := by
  rintro ⟨hx, hopen⟩
  have hsuffix := h.settled (x :: back) (List.suffix_append _ _)
  rw [excess_cons, hx, Paren.value] at hsuffix
  have hback : 0 + excess paren? back < 0 := by omega
  obtain ⟨inner, y, rest, rfl, hy, hinner, hfront⟩ := exists_closing (Int.le_refl 0) hback
  rw [Int.zero_add] at hinner
  refine hopen inner y rest rfl ⟨hinner, ?_⟩ hy
  rintro s ⟨p, rfl⟩
  have hp := hfront p (List.prefix_append p s)
  rw [excess_append] at hinner
  omega

/-- Behind a balanced part of a balanced list nothing is closed. -/
lemma Balanced.not_closing (h : Balanced paren? (front ++ x :: back))
    (hfront : Balanced paren? front) : paren? x ≠ some .closing := by
  intro hx
  have hwhole := h.excess_eq
  have hback := h.settled back ⟨front ++ [x], by rw [List.append_assoc, List.singleton_append]⟩
  rw [excess_append, excess_cons, hx, Paren.value, hfront.excess_eq] at hwhole
  omega

/-- **A parenthesis with a balanced list behind it** is the last one that nothing closes. -/
theorem lastOpen_of_balanced (hx : paren? x = some .opening) (h : Balanced paren? back) :
    LastOpen paren? x back where
  leftOpen := ⟨hx, fun inner y rest hback hinner => by
    rw [hback] at h
    exact h.not_closing hinner⟩
  last mid y rest hback := by
    rw [hback] at h
    exact h.not_leftOpen

end Lists

end Condition
