/-
Which part of an expression a type error is about.

* `applyUnary_eq_error`, `applyBinary_eq_error`: an operator fails as an operand does, or for
  the type of an operand;
* `Shows`: how a part shows the error: a comparison fails alike, and the operand of a prefix
  operator has a value of another type than the operator wants;
* `Expr.exists_shows`: the part that is blamed is a node of the tree, and shows the error;
* `Shows.of_moved`: it shows the error at every other place, too.
-/
import Condition.Proofs.Evaluate.FirstCheck
import Condition.Proofs.Evaluate.Moved
import Condition.Proofs.Parse.Phrase

namespace Condition

/-! ### Where a failure comes from -/

/-- An operand without a value is reported for itself, or for what happened in it. -/
lemma Expr.evaluate_of_outcome_error {e : Expr} {failure : Failure}
    (h : e.outcome = .error failure) :
    e.evaluate = .error failure ∨ failure = .fault (.missingValue e.span) := by
  rw [outcome] at h
  cases hvalue : e.evaluate with
  | error failure' =>
      rw [hvalue] at h
      exact .inl (congrArg _ (Except.error.inj h))
  | ok value =>
      cases value with
      | none =>
          rw [hvalue] at h
          exact .inr (Except.error.inj h).symm
      | some v =>
          rw [hvalue] at h
          cases h

/-- An operand with a value has it alone, too. -/
lemma Expr.evaluate_of_outcome_ok {e : Expr} {v : Value} (h : e.outcome = .ok v) :
    e.evaluate = .ok (some v) := by
  rw [outcome] at h
  cases hvalue : e.evaluate with
  | error failure =>
      rw [hvalue] at h
      cases h
  | ok value =>
      cases value with
      | none =>
          rw [hvalue] at h
          cases h
      | some w =>
          rw [hvalue] at h
          exact congrArg _ (congrArg some (Except.ok.inj h))

/-- A value that is only looked at does not fail. -/
lemma map_eq_error {ε α β : Type} {x : Except ε α} {f : α → β} {failure : ε}
    (h : x.map f = .error failure) : x = .error failure := by
  cases x with
  | error failure' => exact congrArg _ (Except.error.inj h)
  | ok a => cases h

section Operators

variable {symbol : String} {s : Span} {left right operand : Outcome} {failure : Failure}

/-- A prefix operator fails as its operand does, or because the value of its operand has
another type than it wants. -/
lemma applyUnary_eq_error {op : UnaryOperator}
    (h : applyUnary op symbol s operand = .error failure) :
    operand = .error failure ∨
      ∃ v, operand = .ok v ∧ v.type ≠ op.type ∧
        failure = wrongType (.unary op) symbol op.type v s := by
  rcases bind_eq_error h with h | ⟨v, hv, h⟩
  · exact .inl h
  · refine .inr ⟨v, hv, ?_⟩
    cases op <;> cases v <;> cases h <;> exact ⟨nofun, rfl⟩

/-- An operand that has to be a number fails as it does, or because it is none. -/
lemma numberOf_eq_error {op : BinaryOperator}
    (h : numberOf op symbol s operand = .error failure) :
    operand = .error failure ∨ ∃ v, failure = wrongType (.binary op) symbol .number v s := by
  rcases bind_eq_error h with h | ⟨v, -, h⟩
  · exact .inl h
  · refine .inr ⟨v, ?_⟩
    cases v <;> cases h <;> rfl

lemma applyLogic_eq_error {op : BinaryOperator} (hop : op.family = .logic)
    (h : applyLogic op left right = .error failure) :
    left = .error failure ∨ right = .error failure := by
  cases left with
  | error failure' => exact .inl (congrArg _ (Except.error.inj h))
  | ok l =>
      rw [applyLogic_ok hop] at h
      split at h
      · contradiction
      · exact .inr (map_eq_error (map_eq_error h))

lemma applyEquality_eq_error {op : BinaryOperator} (hop : op.family = .equality)
    (h : applyEquality op left right = .error failure) :
    left = .error failure ∨ right = .error failure := by
  rcases bind_eq_error h with h | ⟨l, -, h⟩
  · exact .inl h
  rcases bind_eq_error h with h | ⟨r, -, h⟩
  · exact .inr h
  · cases op <;> contradiction

lemma applyRelation_eq_error {op : BinaryOperator} (hop : op.family = .relation)
    (h : applyRelation op symbol s left right = .error failure) :
    left = .error failure ∨ right = .error failure ∨
      ∃ v, failure = wrongType (.binary op) symbol .number v s := by
  rcases bind_eq_error h with h | ⟨l, -, h⟩
  · rcases numberOf_eq_error h with hleft | hv
    · exact .inl hleft
    · exact .inr (.inr hv)
  rcases bind_eq_error h with h | ⟨r, -, h⟩
  · rcases numberOf_eq_error h with hright | hv
    · exact .inr (.inl hright)
    · exact .inr (.inr hv)
  · cases op <;> contradiction

/-- **An infix operator** fails as one of its operands does, or it is a comparison and fails for
the type of one of them. -/
lemma applyBinary_eq_error {op : BinaryOperator}
    (h : applyBinary op symbol s left right = .error failure) :
    left = .error failure ∨ right = .error failure ∨
      (op.family = .relation ∧ ∃ v, failure = wrongType (.binary op) symbol .number v s) := by
  rw [applyBinary] at h
  cases hop : op.family with
  | logic =>
      rw [hop] at h
      rcases applyLogic_eq_error hop h with hleft | hright
      · exact .inl hleft
      · exact .inr (.inl hright)
  | equality =>
      rw [hop] at h
      rcases applyEquality_eq_error hop h with hleft | hright
      · exact .inl hleft
      · exact .inr (.inl hright)
  | relation =>
      rw [hop] at h
      rcases applyRelation_eq_error hop h with hleft | hright | hv
      · exact .inl hleft
      · exact .inr (.inl hright)
      · exact .inr (.inr ⟨rfl, hv⟩)

end Operators

/-! ### The part that is highlighted -/

/-- **How a part of an expression shows a type error.** The part is a comparison, and fails with
the error; or it is the operand of a prefix operator, and has a value of the type that is
reported, which is not the type that the operator wants. -/
def Shows (operator : Operator) (symbol : String) (expected actual : ValueType) (span : Span)
    (result : Except Failure (Option Value)) : Prop :=
  (∃ op, operator = .binary op ∧ op.family = .relation ∧
      result = .error (.fault (.invalidType operator symbol expected actual span))) ∨
    ∃ op v, operator = .unary op ∧ result = .ok (some v) ∧ v.type = actual ∧ actual ≠ expected

/-- **A type error highlights a node** of the tree that shows it. -/
lemma Expr.exists_shows {e : Expr} {operator : Operator} {symbol : String}
    {expected actual : ValueType} {span : Span}
    (h : e.evaluate = .error (.fault (.invalidType operator symbol expected actual span))) :
    ∃ n ∈ e.nodes, n.span = span ∧ Shows operator symbol expected actual span n.evaluate := by
  induction e with
  | empty | literal => cases h
  | unary op symbol' operand s depth ih =>
      rw [evaluate_unary] at h
      rcases applyUnary_eq_error (map_eq_error h) with hoperand | ⟨v, hv, hv', hfailure⟩
      · rcases evaluate_of_outcome_error hoperand with hoperand | hmissing
        · obtain ⟨n, hn, hspan, hshows⟩ := ih hoperand
          exact ⟨n, List.mem_cons_of_mem _ hn, hspan, hshows⟩
        · cases hmissing
      · cases hfailure
        exact ⟨operand, List.mem_cons_of_mem _ operand.mem_nodes_self, rfl,
          .inr ⟨op, v, rfl, evaluate_of_outcome_ok hv, rfl, hv'⟩⟩
  | binary op symbol' left right s depth ihl ihr =>
      have hwhole := h
      rw [evaluate_binary] at h
      rcases applyBinary_eq_error (map_eq_error h) with hleft | hright | ⟨hop, v, hfailure⟩
      · rcases evaluate_of_outcome_error hleft with hleft | hmissing
        · obtain ⟨n, hn, hspan, hshows⟩ := ihl hleft
          exact ⟨n, List.mem_cons_of_mem _ (List.mem_append_left _ hn), hspan, hshows⟩
        · cases hmissing
      · rcases evaluate_of_outcome_error hright with hright | hmissing
        · obtain ⟨n, hn, hspan, hshows⟩ := ihr hright
          exact ⟨n, List.mem_cons_of_mem _ (List.mem_append_right _ hn), hspan, hshows⟩
        · cases hmissing
      · cases hfailure
        exact ⟨_, mem_nodes_self _, rfl, .inl ⟨op, rfl, hop, hwhole⟩⟩

/-- What a part shows further on, it shows here. -/
lemma Shows.of_moved {operator : Operator} {symbol : String} {expected actual : ValueType}
    {span : Span} {k : Nat} {result : Except Failure (Option Value)}
    (h : Shows operator symbol expected actual (span.moved k) (failingAt k result)) :
    Shows operator symbol expected actual span result := by
  cases result with
  | ok value =>
      rcases h with ⟨op, hoperator, hop, herror⟩ | hvalue
      · cases herror
      · exact .inr hvalue
  | error failure =>
      rcases h with ⟨op, hoperator, hop, herror⟩ | ⟨op, v, hoperator, hvalue, hv⟩
      · have hfailure : failure = .fault (.invalidType operator symbol expected actual span) :=
          Failure.moved_injective k (Except.error.inj herror)
        exact .inl ⟨op, hoperator, hop, congrArg _ hfailure⟩
      · cases hvalue

end Condition
