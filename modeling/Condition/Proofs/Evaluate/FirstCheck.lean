/-
The check of an operand's type that an evaluation fails first.

* `Expr.staticType`: the type of an expression, read off its root;
* `Check`, `Expr.checks`: what is asked of the operands, in the order of evaluation;
* `Ends`: a computation ends at the first of its checks that fails, or with a value;
  `Ends.bind` puts computations one after the other;
* `Expr.ends_outcome`: every evaluation ends so;
* `Expr.evaluate_first_check`: an evaluation gives a value of the static type, or fails
  with the first check that does not hold.
-/
import Condition.Proofs.Evaluate.Outcome
import Condition.Proofs.Grammar

namespace Condition

/-! ### Static types -/

/-- The type that a prefix operator wants its operand to have, which is also that of its
value. -/
def UnaryOperator.type : UnaryOperator → ValueType
  | not => .boolean
  | negate => .number

/-- The type of an expression, whatever its operands are. The blank expression has no
value; its type is of no account. -/
def Expr.staticType : Expr → ValueType
  | empty _ => .boolean
  | literal value _ => value.type
  | unary op _ _ _ _ => op.type
  | binary _ _ _ _ _ _ => .boolean

/-! ### Checks -/

/-- The value has the type. -/
def Value.OfType (τ : ValueType) (v : Value) : Prop := v.type = τ

/-- A check of an operand: the operator that asks for it and its spelling, the type it asks
for, the static type of the operand, and the place that is blamed. -/
structure Check where
  operator : Operator
  symbol : String
  expected : ValueType
  actual : ValueType
  span : Span
deriving DecidableEq

/-- The operand has the type that is asked for. -/
def Check.Passes (k : Check) : Prop := k.actual = k.expected

instance : DecidablePred Check.Passes :=
  fun k => inferInstanceAs (Decidable (k.actual = k.expected))

/-- What is reported if the check fails. -/
def Check.fault (k : Check) : Fault :=
  .invalidType k.operator k.symbol k.expected k.actual k.span

/-- Whether the operator does without its right operand, given the left one. -/
def BinaryOperator.skips (op : BinaryOperator) : Outcome → Bool
  | .ok v => op.decidedBy v.isTruthy
  | .error _ => false

/-- **The checks of an evaluation**, in their order. A prefix operator checks its operand,
with the operand's span; a relational operator checks its left operand before anything
of the right one, with its own span; a logical operator leaves its right operand out
where the left one decides. Nothing behind a check that fails is reached. -/
def Expr.checks : Expr → List Check
  | empty _ => []
  | literal _ _ => []
  | unary op symbol operand _ _ =>
    operand.checks ++ [⟨.unary op, symbol, op.type, operand.staticType, operand.span⟩]
  | binary op symbol left right span _ =>
    match op.family with
    | .logic => left.checks ++ if op.skips left.outcome then [] else right.checks
    | .equality => left.checks ++ right.checks
    | .relation =>
      (left.checks ++ [⟨.binary op, symbol, .number, left.staticType, span⟩]) ++
        (right.checks ++ [⟨.binary op, symbol, .number, right.staticType, span⟩])

/-- Every operand of the root has the static type that is asked for. -/
def Expr.OperandsFit : Expr → Prop
  | empty _ => True
  | literal _ _ => True
  | unary op _ operand _ _ => operand.staticType = op.type
  | binary op _ left right _ _ =>
    op.family = .relation → left.staticType = .number ∧ right.staticType = .number

/-! ### Computations that check -/

/-- The computation ends with a value that has the property, all its checks passed, or it
fails with the first check that does not pass. -/
inductive Ends {α : Type} (P : α → Prop) : List Check → Except Failure α → Prop where
  | value {ks : List Check} {a : α} (hks : ∀ k ∈ ks, k.Passes) (ha : P a) : Ends P ks (.ok a)
  | failed {before after : List Check} {k : Check} (hbefore : ∀ k ∈ before, k.Passes)
      (hk : ¬k.Passes) : Ends P (before ++ k :: after) (.error (.fault k.fault))

namespace Ends

variable {α β : Type} {P : α → Prop} {Q : β → Prop} {ks ls : List Check}
  {x : Except Failure α} {y : Except Failure β}

/-- Checks that passed come before. -/
lemma after (hks : ∀ k ∈ ks, k.Passes) (h : Ends Q ls y) : Ends Q (ks ++ ls) y := by
  cases h with
  | value hls hb => exact .value (List.forall_mem_append.mpr ⟨hks, hls⟩) hb
  | failed hbefore hk =>
      rw [← List.append_assoc]
      exact .failed (List.forall_mem_append.mpr ⟨hks, hbefore⟩) hk

/-- No check is reached behind one that fails. -/
lemma failed_append {before rest : List Check} {k : Check} (hbefore : ∀ k ∈ before, k.Passes)
    (hk : ¬k.Passes) : Ends Q ((before ++ k :: rest) ++ ls) (.error (.fault k.fault)) := by
  rw [List.append_assoc, List.cons_append]
  exact .failed hbefore hk

/-- One computation goes on with the value of another. -/
lemma bind {f : α → Except Failure β} (h : Ends P ks x) (hf : ∀ a, P a → Ends Q ls (f a)) :
    Ends Q (ks ++ ls) (x >>= f) := by
  cases h with
  | value hks ha => exact (hf _ ha).after hks
  | failed hbefore hk => exact failed_append hbefore hk

/-- A value that is only looked at. -/
lemma map {f : α → β} (h : Ends P ks x) (hf : ∀ a, P a → Q (f a)) : Ends Q ks (x.map f) := by
  cases h with
  | value hks ha => exact .value hks (hf _ ha)
  | failed hbefore hk => exact .failed hbefore hk

/-- A check that is made, and what comes of it if it passes. -/
lemma check {k : Check} (hpass : k.Passes → Ends Q [] y)
    (hfail : ¬k.Passes → y = .error (.fault k.fault)) : Ends Q [k] y := by
  by_cases hk : k.Passes
  · have hks : ∀ k' ∈ [k], k'.Passes := by simpa using hk
    exact (hpass hk).after hks
  · rw [hfail hk]
    exact failed (List.forall_mem_nil _) hk

end Ends

/-! ### Operators -/

section Operators

variable {P : Value → Prop} {ks ls : List Check} {left right operand : Outcome} {τ σ : ValueType}

/-- A prefix operator checks its operand. -/
lemma ends_applyUnary (op : UnaryOperator) (symbol : String) (span : Span)
    (h : Ends (Value.OfType τ) ks operand) :
    Ends (Value.OfType op.type) (ks ++ [⟨.unary op, symbol, op.type, τ, span⟩])
      (applyUnary op symbol span operand) := by
  refine h.bind fun v hv => Ends.check (fun hpass => ?_) fun hfail => ?_
  · obtain rfl : τ = op.type := hpass
    cases op <;> cases v <;> first | contradiction | exact .value (by simp) rfl
  · subst hv
    cases op <;> cases v <;> first | rfl | exact absurd rfl hfail

/-- A relational operator checks each of its operands. -/
lemma ends_numberOf (op : BinaryOperator) (symbol : String) (span : Span)
    (h : Ends (Value.OfType τ) ks operand) :
    Ends (fun _ => True) (ks ++ [⟨.binary op, symbol, .number, τ, span⟩])
      (numberOf op symbol span operand) := by
  refine h.bind fun v hv => Ends.check (fun hpass => ?_) fun hfail => ?_
  · obtain rfl : τ = .number := hpass
    cases v <;> first | contradiction | exact .value (by simp) trivial
  · subst hv
    cases v <;> first | rfl | exact absurd rfl hfail

lemma ends_applyRelation {op : BinaryOperator} (hop : op.family = .relation) (symbol : String)
    (span : Span) (hl : Ends (Value.OfType τ) ks left)
    (hr : Ends (Value.OfType σ) ls right) :
    Ends (Value.OfType .boolean)
      ((ks ++ [⟨.binary op, symbol, .number, τ, span⟩]) ++
        (ls ++ [⟨.binary op, symbol, .number, σ, span⟩]))
      (applyRelation op symbol span left right) := by
  refine (ends_numberOf op symbol span hl).bind fun l _ => ?_
  rw [← List.append_nil (ls ++ _)]
  refine (ends_numberOf op symbol span hr).bind fun r _ => ?_
  cases op <;> first | contradiction | exact .value (by simp) rfl

lemma ends_applyEquality {op : BinaryOperator} (hop : op.family = .equality)
    (hl : Ends (Value.OfType τ) ks left) (hr : Ends (Value.OfType σ) ls right) :
    Ends (Value.OfType .boolean) (ks ++ ls) (applyEquality op left right) := by
  refine hl.bind fun l _ => ?_
  rw [← List.append_nil ls]
  refine hr.bind fun r _ => ?_
  cases op <;> first | contradiction | exact .value (by simp) rfl

/-- A logical operator checks nothing itself, and leaves its right operand out where the
left one decides. -/
lemma ends_applyLogic {op : BinaryOperator} (hop : op.family = .logic)
    (hl : Ends (Value.OfType τ) ks left) (hr : Ends (Value.OfType σ) ls right) :
    Ends (Value.OfType .boolean) (ks ++ if op.skips left then [] else ls)
      (applyLogic op left right) := by
  cases hl with
  | failed hbefore hk => exact Ends.failed_append hbefore hk
  | @value _ l hks _ =>
      refine Ends.after hks ?_
      rw [applyLogic_ok hop, BinaryOperator.skips]
      split
      · exact .value (by simp) rfl
      · have htruth : Ends (fun _ => True) ls (truthOf right) := hr.map fun _ _ => trivial
        exact htruth.map fun _ _ => rfl

end Operators

/-! ### Evaluation -/

/-- **Every evaluation** of a tree without blank nodes ends at the first of its checks that
fails, or with a value of the static type. -/
lemma Expr.ends_outcome {e : Expr} (hfull : ∀ n ∈ e.nodes, n.isEmpty = false) :
    Ends (Value.OfType e.staticType) e.checks e.outcome := by
  induction e with
  | empty => exact absurd (hfull _ (Expr.mem_nodes_self _)) (by simp [Expr.isEmpty])
  | literal value span => exact .value (by simp [Expr.checks]) rfl
  | unary op symbol operand span depth ih =>
      rw [Expr.outcome_unary]
      have hoperand := ih fun n hn => hfull n (List.mem_cons_of_mem _ hn)
      exact ends_applyUnary op symbol operand.span hoperand
  | binary op symbol left right span depth ihl ihr =>
      have hl := ihl fun n hn => hfull n (List.mem_cons_of_mem _ (List.mem_append_left _ hn))
      have hr := ihr fun n hn => hfull n (List.mem_cons_of_mem _ (List.mem_append_right _ hn))
      rw [Expr.outcome_binary, applyBinary, Expr.checks, Expr.staticType]
      cases hop : op.family with
      | logic => exact ends_applyLogic hop hl hr
      | equality => exact ends_applyEquality hop hl hr
      | relation => exact ends_applyRelation hop symbol span hl hr

/-- Where all operands have the static types that are asked for, all checks pass. -/
lemma Expr.checks_pass {e : Expr} (hfit : ∀ n ∈ e.nodes, n.OperandsFit) :
    ∀ k ∈ e.checks, k.Passes := by
  induction e with
  | empty | literal => simp [Expr.checks]
  | unary op symbol operand span depth ih =>
      have hroot : operand.staticType = op.type := hfit _ (Expr.mem_nodes_self _)
      have hoperand := ih fun n hn => hfit n (List.mem_cons_of_mem _ hn)
      exact List.forall_mem_append.mpr ⟨hoperand, by simpa [Check.Passes] using hroot⟩
  | binary op symbol left right span depth ihl ihr =>
      have hroot : op.family = .relation → left.staticType = .number ∧ right.staticType = .number :=
        hfit _ (Expr.mem_nodes_self _)
      have hl := ihl fun n hn => hfit n (List.mem_cons_of_mem _ (List.mem_append_left _ hn))
      have hr := ihr fun n hn => hfit n (List.mem_cons_of_mem _ (List.mem_append_right _ hn))
      rw [Expr.checks]
      cases hop : op.family with
      | logic =>
          refine List.forall_mem_append.mpr ⟨hl, ?_⟩
          split
          · exact List.forall_mem_nil _
          · exact hr
      | equality => exact List.forall_mem_append.mpr ⟨hl, hr⟩
      | relation =>
          obtain ⟨hleft, hright⟩ := hroot hop
          refine List.forall_mem_append.mpr ⟨List.forall_mem_append.mpr ⟨hl, ?_⟩,
            List.forall_mem_append.mpr ⟨hr, ?_⟩⟩
          · simpa [Check.Passes] using hleft
          · simpa [Check.Passes] using hright

/-- **Type soundness, and the first error.** The evaluation of a tree without blank nodes
gives a value of the static type of the tree, or it fails. It fails if and only if one of
its checks does not pass, and it reports the first one in the order of evaluation. So a
tree whose operands all have the static types that are asked for has a value. -/
theorem Expr.evaluate_first_check (e : Expr) (hfull : ∀ n ∈ e.nodes, n.isEmpty = false) :
    (∀ r, e.evaluate = .ok r → ∃ v, r = some v ∧ v.OfType e.staticType) ∧
      ((∃ failure, e.evaluate = .error failure) ↔ ∃ k ∈ e.checks, ¬k.Passes) ∧
      (∀ failure, e.evaluate = .error failure →
        ∃ before k after, e.checks = before ++ k :: after ∧ (∀ k' ∈ before, k'.Passes) ∧
          ¬k.Passes ∧ failure = .fault k.fault) ∧
      ((∀ n ∈ e.nodes, n.OperandsFit) →
        ∃ v, e.evaluate = .ok (some v) ∧ v.OfType e.staticType) := by
  have hends : Ends (fun r => ∃ v, r = some v ∧ v.OfType e.staticType) e.checks e.evaluate := by
    rw [Expr.evaluate_eq_map_outcome (hfull e e.mem_nodes_self)]
    exact (Expr.ends_outcome hfull).map fun v hv => ⟨v, rfl, hv⟩
  have hpass : (∀ n ∈ e.nodes, n.OperandsFit) → ∀ k ∈ e.checks, k.Passes := Expr.checks_pass
  generalize e.checks = ks, e.evaluate = result at hends hpass ⊢
  cases hends with
  | @value ks r hks hr =>
      obtain ⟨v, rfl, hv⟩ := hr
      refine ⟨?_, ?_, ?_, fun _ => ⟨v, rfl, hv⟩⟩
      · rintro _ ⟨⟩
        exact ⟨v, rfl, hv⟩
      · constructor
        · rintro ⟨_, ⟨⟩⟩
        · rintro ⟨k, hk, hfails⟩
          exact absurd (hks k hk) hfails
      · rintro _ ⟨⟩
  | @failed before after k hbefore hk =>
      have hmem : k ∈ before ++ k :: after := List.mem_append_right _ List.mem_cons_self
      refine ⟨?_, ?_, ?_, fun hfit => absurd (hpass hfit k hmem) hk⟩
      · rintro _ ⟨⟩
      · exact ⟨fun _ => ⟨k, hmem, hk⟩, fun _ => ⟨_, rfl⟩⟩
      · rintro _ ⟨⟩
        exact ⟨before, k, after, rfl, hbefore, hk, rfl⟩

/-- The theorem at `-(0 > "a")`, in which two checks fail: the one inside is reported. -/
theorem Expr.evaluate_negated_relation :
    (∀ n ∈ (Expr.unary .negate "-" (.binary .greater ">" (.literal (.number .zero) ⟨2, 3⟩)
        (.literal (.string "a") ⟨6, 9⟩) ⟨1, 10⟩ 2) ⟨0, 10⟩ 3).nodes, n.isEmpty = false) ∧
      (Expr.unary .negate "-" (.binary .greater ">" (.literal (.number .zero) ⟨2, 3⟩)
        (.literal (.string "a") ⟨6, 9⟩) ⟨1, 10⟩ 2) ⟨0, 10⟩ 3).evaluate =
        .error (.fault (.invalidType (.binary .greater) ">" .number .string ⟨1, 10⟩)) := by
  have hfull : ∀ n ∈ (Expr.unary .negate "-" (.binary .greater ">" (.literal (.number .zero) ⟨2, 3⟩)
      (.literal (.string "a") ⟨6, 9⟩) ⟨1, 10⟩ 2) ⟨0, 10⟩ 3).nodes, n.isEmpty = false := by
    simp [Expr.nodes, Expr.isEmpty]
  obtain ⟨-, hfails, hfirst, -⟩ := Expr.evaluate_first_check _ hfull
  obtain ⟨failure, heq⟩ := hfails.mpr
    ⟨⟨.binary .greater, ">", .number, .string, ⟨1, 10⟩⟩, by decide, by decide⟩
  refine ⟨hfull, ?_⟩
  rw [heq]
  obtain ⟨before, k, after, hchecks, hbefore, hk, rfl⟩ := hfirst failure heq
  -- the check of the left operand passes, so the second one is the first that fails
  rcases before with _ | ⟨k₁, _ | ⟨k₂, before⟩⟩
  · obtain ⟨rfl, -⟩ := List.cons.inj hchecks
    exact absurd rfl hk
  · obtain ⟨-, htail⟩ := List.cons.inj hchecks
    obtain ⟨rfl, -⟩ := List.cons.inj htail
    rfl
  · obtain ⟨-, htail⟩ := List.cons.inj hchecks
    obtain ⟨rfl, -⟩ := List.cons.inj htail
    exact absurd (hbefore _ (List.mem_cons_of_mem _ List.mem_cons_self)) (by decide)

end Condition
