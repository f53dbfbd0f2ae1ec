/-
A right operand that a logical operator does not need.

* `Expr.Replaced`: a tree in which one node has been replaced by another;
* `Expr.Replaced.evaluate_eq`: a tree keeps its value when a node of it is replaced by one
  with the same value and the same span;
* `Expr.evaluate_skipped`: where the left operand decides, any expression at all may stand
  on the right, wherever in the tree the operator is.
-/
import Condition.Proofs.Evaluate.Outcome
import Condition.Proofs.Grammar

namespace Condition

namespace Expr

/-! ### Replacing a node -/

/-- **One node replaced**: the second tree is the first with `n'` in the place of one `n`.
The operators above that place, their spellings, their spans and their other operands stay
as they are; the depths that are recorded there may change. -/
inductive Replaced (n n' : Expr) : Expr → Expr → Prop where
  | root : Replaced n n' n n'
  | operand {e e' : Expr} (op : UnaryOperator) (symbol : String) (span : Span)
      (depth depth' : Nat) (h : Replaced n n' e e') :
      Replaced n n' (.unary op symbol e span depth) (.unary op symbol e' span depth')
  | left {e e' : Expr} (op : BinaryOperator) (symbol : String) (right : Expr) (span : Span)
      (depth depth' : Nat) (h : Replaced n n' e e') :
      Replaced n n' (.binary op symbol e right span depth) (.binary op symbol e' right span depth')
  | right {e e' : Expr} (op : BinaryOperator) (symbol : String) (left : Expr) (span : Span)
      (depth depth' : Nat) (h : Replaced n n' e e') :
      Replaced n n' (.binary op symbol left e span depth) (.binary op symbol left e' span depth')

/-- Every node of a tree can be replaced. -/
lemma exists_replaced {n e : Expr} (h : n ∈ e.nodes) (n' : Expr) : ∃ e', Replaced n n' e e' := by
  induction e with
  | empty | literal =>
      obtain rfl := List.mem_singleton.mp h
      exact ⟨n', .root⟩
  | unary op symbol operand span depth ih =>
      rcases List.mem_cons.mp h with rfl | h
      · exact ⟨n', .root⟩
      · obtain ⟨e', he'⟩ := ih h
        exact ⟨_, .operand op symbol span depth depth he'⟩
  | binary op symbol left right span depth ihl ihr =>
      rcases List.mem_cons.mp h with rfl | h
      · exact ⟨n', .root⟩
      · rcases List.mem_append.mp h with h | h
        · obtain ⟨e', he'⟩ := ihl h
          exact ⟨_, .left op symbol right span depth depth he'⟩
        · obtain ⟨e', he'⟩ := ihr h
          exact ⟨_, .right op symbol left span depth depth he'⟩

namespace Replaced

variable {n n' e e' : Expr}

/-- A tree keeps its span, if the new node has that of the old one. -/
lemma span_eq (h : Replaced n n' e e') (hspan : n'.span = n.span) : e'.span = e.span := by
  cases h with
  | root => exact hspan
  | operand | left | right => rfl

/-- **A tree keeps its value**, or its fault, if the new node has the value and the span of
the old one. -/
theorem evaluate_eq (h : Replaced n n' e e') (hspan : n'.span = n.span)
    (hvalue : n'.evaluate = n.evaluate) : e'.evaluate = e.evaluate := by
  induction h with
  | root => exact hvalue
  | operand op symbol span depth depth' h ih =>
      rw [evaluate_unary, evaluate_unary, outcome, outcome, h.span_eq hspan, ih]
  | left op symbol right span depth depth' h ih
  | right op symbol left span depth depth' h ih =>
      rw [evaluate_binary, evaluate_binary, outcome, outcome, outcome, h.span_eq hspan, ih]

end Replaced

end Expr

/-! ### Operands that are skipped -/

/-- Only a logical operator is decided by its left operand. -/
lemma BinaryOperator.family_of_decidedBy {op : BinaryOperator} {l : Bool}
    (h : op.decidedBy l = true) : op.family = .logic := by
  cases op <;> first | rfl | contradiction

namespace Expr

/-- Where the left operand decides, the value is known whatever stands on the right. -/
lemma evaluate_decided {op : BinaryOperator} {left : Expr} {v : Value}
    (hleft : left.evaluate = .ok (some v)) (hop : op.decidedBy v.isTruthy = true)
    (symbol : String) (right : Expr) (span : Span) (depth : Nat) :
    (binary op symbol left right span depth).evaluate =
      .ok (some (.boolean (op.truth v.isTruthy false))) := by
  have hfamily := BinaryOperator.family_of_decidedBy hop
  have houtcome : left.outcome = .ok v := outcome_of_evaluate hleft
  rw [evaluate_binary, applyBinary, hfamily, houtcome, applyLogic_ok hfamily, if_pos hop]
  rfl

/-- **A skipped operand has no influence.** Take a logical operator anywhere in a tree whose
left operand has a value that decides it: a false one for a conjunction or an implication, a
true one for a disjunction. Its right operand can be replaced by any expression, and the
tree then has the value, or the fault, that it had. -/
theorem evaluate_skipped {e left right : Expr} {op : BinaryOperator} {symbol : String}
    {span : Span} {depth : Nat} {v : Value}
    (hnode : binary op symbol left right span depth ∈ e.nodes)
    (hleft : left.evaluate = .ok (some v)) (hop : op.decidedBy v.isTruthy = true)
    (other : Expr) (depth' : Nat) :
    (∃ e', Replaced (binary op symbol left right span depth)
      (binary op symbol left other span depth') e e') ∧
    ∀ e', Replaced (binary op symbol left right span depth)
      (binary op symbol left other span depth') e e' → e'.evaluate = e.evaluate := by
  refine ⟨exists_replaced hnode _, fun e' he' => he'.evaluate_eq rfl ?_⟩
  rw [evaluate_decided hleft hop, evaluate_decided hleft hop]

/-- In `-(false && !1)` the operand `!1` is skipped. Without any expression in its place the
fault is still that of the sign. -/
theorem evaluate_skipped_negate :
    (∃ e', Replaced
      (binary .and "&&" (literal (.boolean false) ⟨2, 7⟩)
        (unary .not "!" (literal (.number .zero) ⟨12, 13⟩) ⟨11, 13⟩ 2) ⟨1, 14⟩ 3)
      (binary .and "&&" (literal (.boolean false) ⟨2, 7⟩) blank ⟨1, 14⟩ 2)
      (unary .negate "-" (binary .and "&&" (literal (.boolean false) ⟨2, 7⟩)
        (unary .not "!" (literal (.number .zero) ⟨12, 13⟩) ⟨11, 13⟩ 2) ⟨1, 14⟩ 3) ⟨0, 14⟩ 4) e') ∧
    (unary .negate "-" (binary .and "&&" (literal (.boolean false) ⟨2, 7⟩) blank ⟨1, 14⟩ 2)
      ⟨0, 14⟩ 3).evaluate =
        .error (.fault (.invalidType (.unary .negate) "-" .number .boolean ⟨1, 14⟩)) := by
  obtain ⟨hexists, hvalue⟩ := evaluate_skipped
    (e := unary .negate "-" (binary .and "&&" (literal (.boolean false) ⟨2, 7⟩)
      (unary .not "!" (literal (.number .zero) ⟨12, 13⟩) ⟨11, 13⟩ 2) ⟨1, 14⟩ 3) ⟨0, 14⟩ 4)
    (List.mem_cons_of_mem _ (mem_nodes_self _)) rfl rfl blank 2
  refine ⟨hexists, ?_⟩
  rw [hvalue _ (.operand .negate "-" ⟨0, 14⟩ 4 3 .root)]
  rfl

end Expr

end Condition
