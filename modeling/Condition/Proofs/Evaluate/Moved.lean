/-
Evaluation at another place of a text.

* `applyUnary_moved`, `applyBinary_moved`: an operator further on makes the same of operands
  further on;
* `Expr.evaluate_moved`: a tree further on has the same value, or the same fault further on.
-/
import Condition.Proofs.Evaluate.Outcome
import Condition.Proofs.Fault

namespace Condition

/-- What becomes of a computation `k` bytes further on: the same value, or the failure there. -/
def failingAt {α : Type} (k : Nat) (x : Except Failure α) : Except Failure α :=
  x.mapError (Failure.moved k)

/-- A value is the same further on. -/
lemma failingAt_map {α β : Type} (k : Nat) (x : Except Failure α) (f : α → β) :
    failingAt k (x.map f) = (failingAt k x).map f := by
  cases x <;> rfl

/-! ### Operators -/

section Operators

variable (k : Nat) (symbol : String) (s : Span) (operand left right : Outcome)

/-- A prefix operator. -/
lemma applyUnary_moved (op : UnaryOperator) :
    applyUnary op symbol (s.moved k) (failingAt k operand) =
      failingAt k (applyUnary op symbol s operand) := by
  cases operand with
  | error failure => rfl
  | ok v => cases op <;> cases v <;> rfl

/-- The number that an operand of a relational operator has to be. -/
lemma numberOf_moved (op : BinaryOperator) :
    numberOf op symbol (s.moved k) (failingAt k operand) =
      failingAt k (numberOf op symbol s operand) := by
  cases operand with
  | error failure => rfl
  | ok v => cases v <;> rfl

lemma applyRelation_moved {op : BinaryOperator} (hop : op.family = .relation) :
    applyRelation op symbol (s.moved k) (failingAt k left) (failingAt k right) =
      failingAt k (applyRelation op symbol s left right) := by
  rw [applyRelation, applyRelation, numberOf_moved, numberOf_moved]
  cases numberOf op symbol s left with
  | error failure => rfl
  | ok l =>
      cases numberOf op symbol s right with
      | error failure => rfl
      | ok r => cases op <;> first | contradiction | rfl

lemma applyEquality_moved {op : BinaryOperator} (hop : op.family = .equality) :
    applyEquality op (failingAt k left) (failingAt k right) =
      failingAt k (applyEquality op left right) := by
  cases left with
  | error failure => rfl
  | ok l =>
      cases right with
      | error failure => rfl
      | ok r => cases op <;> first | contradiction | rfl

lemma applyLogic_moved {op : BinaryOperator} (hop : op.family = .logic) :
    applyLogic op (failingAt k left) (failingAt k right) =
      failingAt k (applyLogic op left right) := by
  cases left with
  | error failure => rfl
  | ok l =>
      show applyLogic op (.ok l) (failingAt k right) = _
      rw [applyLogic_ok hop, applyLogic_ok hop]
      split
      · rfl
      · cases right <;> rfl

/-- An infix operator. -/
lemma applyBinary_moved (op : BinaryOperator) :
    applyBinary op symbol (s.moved k) (failingAt k left) (failingAt k right) =
      failingAt k (applyBinary op symbol s left right) := by
  rw [applyBinary, applyBinary]
  cases hop : op.family with
  | logic => exact applyLogic_moved k left right hop
  | equality => exact applyEquality_moved k left right hop
  | relation => exact applyRelation_moved k symbol s left right hop

end Operators

/-! ### Expressions -/

/-- An operand further on. -/
lemma required_moved (k : Nat) (s : Span) (x : Except Failure (Option Value)) :
    required (s.moved k) (failingAt k x) = failingAt k (required s x) := by
  cases x with
  | error failure => rfl
  | ok value => cases value <;> rfl

/-- **Evaluation knows no places**: a tree further on has the same value, or the same fault
further on. -/
theorem Expr.evaluate_moved (k : Nat) (e : Expr) :
    (e.moved k).evaluate = failingAt k e.evaluate := by
  induction e with
  | empty | literal => rfl
  | unary op symbol operand span depth ih =>
      have houtcome : (operand.moved k).outcome = failingAt k operand.outcome := by
        rw [outcome, ih, span_moved, required_moved]
        rfl
      rw [moved, evaluate_unary, evaluate_unary, span_moved, houtcome, applyUnary_moved,
        failingAt_map]
  | binary op symbol left right span depth ihl ihr =>
      have hleft : (left.moved k).outcome = failingAt k left.outcome := by
        rw [outcome, ihl, span_moved, required_moved]
        rfl
      have hright : (right.moved k).outcome = failingAt k right.outcome := by
        rw [outcome, ihr, span_moved, required_moved]
        rfl
      rw [moved, evaluate_binary, evaluate_binary, hleft, hright, applyBinary_moved,
        failingAt_map]

end Condition
