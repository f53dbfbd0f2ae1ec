/-
Evaluation looks at no place and at no spelling.

* `applyUnary_alike`, `applyBinary_alike`: an operator makes the same of operands that
  agree, however it is spelled;
* `Expr.Alike.evaluate`: alike trees have the same value, or alike faults.
-/
import Condition.Proofs.Alike
import Condition.Proofs.Evaluate.Outcome

namespace Condition

variable {R : String → String → Prop}

/-! ### Operators -/

section Operators

variable {symbol symbol' : String} {x x' left left' right right' : Outcome}

/-- A prefix operator. -/
lemma applyUnary_alike (op : UnaryOperator) (hsymbol : R symbol symbol') (s s' : Span)
    (h : Agree (Failure.Alike R) Eq x x') :
    Agree (Failure.Alike R) Eq (applyUnary op symbol s x) (applyUnary op symbol' s' x') := by
  refine h.bind fun v w _ hvw => ?_
  subst hvw
  cases op <;> cases v <;>
    first
    | exact .ok rfl
    | exact .error (.fault (.invalidType _ _ _ _ _ hsymbol))

/-- The number that an operand of a relational operator has to be. -/
lemma numberOf_alike (op : BinaryOperator) (hsymbol : R symbol symbol') (s s' : Span)
    (h : Agree (Failure.Alike R) Eq x x') :
    Agree (Failure.Alike R) Eq (numberOf op symbol s x) (numberOf op symbol' s' x') := by
  refine h.bind fun v w _ hvw => ?_
  subst hvw
  cases v with
  | number n => exact .ok rfl
  | boolean | string => exact .error (.fault (.invalidType _ _ _ _ _ hsymbol))

lemma applyLogic_alike {op : BinaryOperator} (hop : op.family = .logic)
    (hl : Agree (Failure.Alike R) Eq left left') (hr : Agree (Failure.Alike R) Eq right right') :
    Agree (Failure.Alike R) Eq (applyLogic op left right) (applyLogic op left' right') := by
  cases hl with
  | error h =>
      rw [applyLogic_error, applyLogic_error]
      exact .error h
  | ok hvalue =>
      subst hvalue
      rw [applyLogic_ok hop, applyLogic_ok hop]
      split
      · exact .ok rfl
      · have htruth : Agree (Failure.Alike R) Eq (truthOf right) (truthOf right') :=
          hr.map fun _ _ h => congrArg _ h
        exact htruth.map fun _ _ h => by rw [h]

lemma applyEquality_alike {op : BinaryOperator} (hop : op.family = .equality)
    (hl : Agree (Failure.Alike R) Eq left left') (hr : Agree (Failure.Alike R) Eq right right') :
    Agree (Failure.Alike R) Eq (applyEquality op left right) (applyEquality op left' right') := by
  refine hl.bind fun l l' _ hll => hr.bind fun r r' _ hrr => ?_
  subst hll hrr
  cases op <;> first | contradiction | exact .ok rfl

lemma applyRelation_alike {op : BinaryOperator} (hop : op.family = .relation)
    (hsymbol : R symbol symbol') (s s' : Span) (hl : Agree (Failure.Alike R) Eq left left')
    (hr : Agree (Failure.Alike R) Eq right right') :
    Agree (Failure.Alike R) Eq (applyRelation op symbol s left right)
      (applyRelation op symbol' s' left' right') := by
  refine (numberOf_alike op hsymbol s s' hl).bind fun l l' _ hll => ?_
  refine (numberOf_alike op hsymbol s s' hr).bind fun r r' _ hrr => ?_
  subst hll hrr
  cases op <;> first | contradiction | exact .ok rfl

/-- An infix operator. -/
lemma applyBinary_alike (op : BinaryOperator) (hsymbol : R symbol symbol') (s s' : Span)
    (hl : Agree (Failure.Alike R) Eq left left') (hr : Agree (Failure.Alike R) Eq right right') :
    Agree (Failure.Alike R) Eq (applyBinary op symbol s left right)
      (applyBinary op symbol' s' left' right') := by
  rw [applyBinary, applyBinary]
  cases hop : op.family with
  | logic => exact applyLogic_alike hop hl hr
  | equality => exact applyEquality_alike hop hl hr
  | relation => exact applyRelation_alike hop hsymbol s s' hl hr

end Operators

/-! ### Trees -/

/-- Alike trees are alike as operands. -/
lemma Expr.Alike.outcome {e e' : Expr} (h : Expr.Alike R e e') :
    Agree (Failure.Alike R) Eq e.outcome e'.outcome := by
  induction h with
  | empty => exact .error (.fault (.missingValue ..))
  | literal => exact .ok rfl
  | unary op _ _ _ hsymbol _ ih =>
      rw [Expr.outcome_unary, Expr.outcome_unary]
      exact applyUnary_alike op hsymbol _ _ ih
  | binary op _ _ _ hsymbol _ _ ihl ihr =>
      rw [Expr.outcome_binary, Expr.outcome_binary]
      exact applyBinary_alike op hsymbol _ _ ihl ihr

/-- **Alike trees have the same value**, or alike faults. -/
theorem Expr.Alike.evaluate {e e' : Expr} (h : Expr.Alike R e e') :
    Agree (Failure.Alike R) Eq e.evaluate e'.evaluate := by
  have houtcome := h.outcome
  cases h with
  | empty => exact .ok rfl
  | literal | unary | binary =>
      rw [Expr.evaluate_eq_map_outcome rfl, Expr.evaluate_eq_map_outcome rfl]
      exact houtcome.map fun _ _ hvalue => congrArg some hvalue

end Condition
