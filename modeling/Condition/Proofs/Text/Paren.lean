/-
Where the search for an open parenthesis ends.

* `Text.unclosedFrom_behind`: behind a part of the text that the search has read, it goes on
  with the closing parentheses of that part which are to be matched;
* `Text.unclosedParen_of_balanced`, `Text.unclosedParen_of_settled`: it ends at a parenthesis
  with a balanced text behind it, or at the start of a text that leaves none open;
* `Text.unclosedParen_eq_width_iff`: so it ends at a given parenthesis just in these cases.
-/
import Condition.Expr.Parse
import Condition.Proofs.Paren
import Condition.Proofs.Text.Boundary

namespace Condition

/-- The character of a parenthesis. -/
def Paren.char : Paren → Char
  | opening => '('
  | closing => ')'

namespace Text

/-- Which characters are parentheses. -/
def paren? (c : Char) : Option Paren :=
  if c = '(' then some .opening else if c = ')' then some .closing else none

@[simp] lemma paren?_eq_some {c : Char} {p : Paren} : paren? c = some p ↔ c = p.char := by
  cases p <;> grind [paren?, Paren.char]

@[simp] lemma paren?_eq_none {c : Char} : paren? c = none ↔ c ≠ '(' ∧ c ≠ ')' := by
  grind [paren?]

/-- A property that the parentheses do not have. -/
lemma paren?_eq_none_of {q : Char → Bool} {c : Char} (h : q c = true) (hopen : q '(' = false)
    (hclose : q ')' = false) : paren? c = none := by
  refine paren?_eq_none.mpr ⟨?_, ?_⟩
  · rintro rfl
    simp [hopen] at h
  · rintro rfl
    simp [hclose] at h

/-- The search reads the character before the place where it is. -/
lemma unclosedFrom_concat (pending : Nat) (front : List Char) (c : Char) :
    unclosedFrom pending (width (front ++ [c])) (front ++ [c]).reverse =
      match paren? c, pending with
      | some .opening, 0 => width front
      | some .opening, n + 1 => unclosedFrom n (width front) front.reverse
      | some .closing, n => unclosedFrom (n + 1) (width front) front.reverse
      | none, n => unclosedFrom n (width front) front.reverse := by
  have hstart : width (front ++ [c]) - c.utf8Size = width front := by
    rw [width_append, width_cons, width_nil, Nat.add_zero, Nat.add_sub_cancel]
  rw [List.reverse_append, List.reverse_singleton, List.singleton_append, unclosedFrom.eq_def]
  simp only [hstart, paren?]
  split
  · cases pending <;> rfl
  · split <;> rfl

/-- **The search behind a part of the text** that leaves no more parentheses open than were to
be matched: it goes on with as many to be matched as that part has not opened. -/
lemma unclosedFrom_behind {pending : Nat} (front : List Char) {back : List Char}
    (h : ∀ s, s <:+ back → excess paren? s ≤ pending) :
    ∃ n : Nat, (n : Int) = pending - excess paren? back ∧
      unclosedFrom pending (width (front ++ back)) (front ++ back).reverse =
        unclosedFrom n (width front) front.reverse := by
  induction back generalizing front with
  | nil => exact ⟨pending, by simp, by rw [List.append_nil]⟩
  | cons c back ih =>
      obtain ⟨n, hn, hsearch⟩ :=
        ih (front ++ [c]) fun s hs => h s (hs.trans (List.suffix_cons c back))
      have hwhole := h (c :: back) (List.suffix_refl _)
      rw [List.append_assoc, List.singleton_append, unclosedFrom_concat] at hsearch
      rw [excess_cons] at hwhole ⊢
      rw [hsearch]
      cases hc : paren? c with
      | none => exact ⟨n, by simp only [Paren.value]; omega, rfl⟩
      | some p =>
          cases p with
          | opening =>
              -- the parenthesis is matched with one that was to be
              rw [hc, Paren.value] at hwhole
              cases n with
              | zero => omega
              | succ n => exact ⟨n, by simp only [Paren.value]; omega, rfl⟩
          | closing => exact ⟨n + 1, by simp only [Paren.value]; omega, rfl⟩

/-- **The search ends at a parenthesis** with a balanced text behind it. -/
lemma unclosedParen_of_balanced (front : List Char) {back : List Char}
    (h : Balanced paren? back) : unclosedParen (front ++ '(' :: back) = width front := by
  have hsettled : ∀ s, s <:+ back → excess paren? s ≤ (0 : Nat) := h.settled
  obtain ⟨n, hn, hsearch⟩ := unclosedFrom_behind (front ++ ['(']) hsettled
  obtain rfl : n = 0 := by
    rw [h.excess_eq] at hn
    omega
  rw [List.append_assoc, List.singleton_append, unclosedFrom_concat] at hsearch
  exact hsearch

/-- **The search ends at the start** of a text that leaves no parenthesis open. -/
lemma unclosedParen_of_settled {source : List Char} (h : Settled paren? source) :
    unclosedParen source = 0 := by
  have hsettled : ∀ s, s <:+ source → excess paren? s ≤ (0 : Nat) := h
  obtain ⟨n, -, hsearch⟩ := unclosedFrom_behind [] hsettled
  exact hsearch

/-- **The parenthesis that is reported** has a balanced text behind it, or the text begins
there. -/
theorem unclosedParen_cases (source : List Char) :
    Settled paren? source ∧ unclosedParen source = 0 ∨
      ∃ front back, source = front ++ '(' :: back ∧ Balanced paren? back ∧
        unclosedParen source = width front := by
  rcases exists_last_opening paren? source with h | ⟨front, c, back, rfl, hc, hback⟩
  · exact .inl ⟨h, unclosedParen_of_settled h⟩
  · obtain rfl : c = '(' := paren?_eq_some.mp hc
    exact .inr ⟨front, back, rfl, hback, unclosedParen_of_balanced front hback⟩

/-- **A given parenthesis is reported** if the text behind it is balanced, or if it stands at the
start of the text and the text leaves none open. -/
theorem unclosedParen_eq_width_iff (front back : List Char) :
    unclosedParen (front ++ '(' :: back) = width front ↔
      Balanced paren? back ∨ front = [] ∧ Settled paren? ('(' :: back) := by
  constructor
  · intro h
    rcases unclosedParen_cases (front ++ '(' :: back) with
      ⟨hsettled, hstart⟩ | ⟨front', back', hsource, hback, hopen⟩
    · obtain rfl := width_eq_zero.mp (h.symm.trans hstart)
      exact .inr ⟨rfl, hsettled⟩
    · obtain ⟨-, htail⟩ := append_inj_of_width hsource (h.symm.trans hopen)
      obtain ⟨-, rfl⟩ := List.cons.inj htail
      exact .inl hback
  · rintro (hback | ⟨rfl, hsettled⟩)
    · exact unclosedParen_of_balanced front hback
    · exact unclosedParen_of_settled hsettled

end Text

end Condition
