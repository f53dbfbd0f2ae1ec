/-
Outcomes of operands, and what the logical operators make of them.

* `Expr.evaluate_eq_map_outcome`: an expression that is not blank has the same value
  alone and as an operand;
* `BinaryOperator.decidedBy`, `BinaryOperator.truth`: whether a logical operator does
  without its right operand, and its truth table;
* `applyLogic_ok`, `applyLogic_error`: these two say all about a logical operator.
-/
import Mathlib.Tactic.Lemma
import Condition.Expr.Evaluate

namespace Condition

/-! ### Operands -/

/-- What an operation gives is its outcome. -/
lemma Expr.outcome_of_evaluate {e : Expr} {x : Outcome} (h : e.evaluate = x.map some) :
    e.outcome = x := by
  rw [outcome, h]
  cases x <;> rfl

@[simp] lemma Expr.outcome_unary (op : UnaryOperator) (symbol : String) (operand : Expr)
    (span : Span) (depth : Nat) :
    (unary op symbol operand span depth).outcome =
      applyUnary op symbol operand.span operand.outcome :=
  outcome_of_evaluate (evaluate_unary ..)

@[simp] lemma Expr.outcome_binary (op : BinaryOperator) (symbol : String) (left right : Expr)
    (span : Span) (depth : Nat) :
    (binary op symbol left right span depth).outcome =
      applyBinary op symbol span left.outcome right.outcome :=
  outcome_of_evaluate (evaluate_binary ..)

/-- **An expression that is not blank** has the same value alone and as an operand. -/
lemma Expr.evaluate_eq_map_outcome {e : Expr} (h : e.isEmpty = false) :
    e.evaluate = e.outcome.map some := by
  cases e with
  | empty => cases h
  | literal => rfl
  | unary => rw [outcome_unary, evaluate_unary]
  | binary => rw [outcome_binary, evaluate_binary]

/-! ### Logical operators -/

/-- Whether the truth of its left operand decides a logical operator. -/
def BinaryOperator.decidedBy : BinaryOperator → Bool → Bool
  | and, l => !l
  | or, l => l
  | implies, l => !l
  | _, _ => false

/-- The truth table of a logical operator. -/
def BinaryOperator.truth : BinaryOperator → Bool → Bool → Bool
  | and, l, r => l && r
  | or, l, r => l || r
  | implies, l, r => !l || r
  | xor, l, r => l != r
  | _, _, _ => false

/-- A left operand without a value is reported, whatever the right one is. -/
@[simp] lemma applyLogic_error (op : BinaryOperator) (failure : Failure) (right : Outcome) :
    applyLogic op (.error failure) right = .error failure := rfl

/-- **A logical operator** follows its truth table, and looks at its right operand only if
the left one does not decide. -/
lemma applyLogic_ok {op : BinaryOperator} (hop : op.family = .logic) (l : Value)
    (right : Outcome) :
    applyLogic op (.ok l) right =
      if op.decidedBy l.isTruthy then .ok (.boolean (op.truth l.isTruthy false))
      else (truthOf right).map fun r => .boolean (op.truth l.isTruthy r) := by
  have htruth : applyLogic op (.ok l) right = applyLogic op (.ok (.boolean l.isTruthy)) right := rfl
  rw [htruth]
  cases l.isTruthy <;> cases op <;> first | contradiction | rfl

end Condition
