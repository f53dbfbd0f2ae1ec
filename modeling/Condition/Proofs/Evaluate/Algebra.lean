/-
The laws of the logical operators, failures and the order of evaluation included.

* `Expr.condition`, `BinaryOperator.connect`: what an expression counts for as a condition,
  and what a logical operator makes of two conditions, either of which may be a failure;
* `Expr.evaluate_join`, `Expr.condition_join`: a logical operation is that, and nothing else
  of it matters;
* `BinaryOperator.connect_connect`: three operators are associative, and an implication from
  a conjunction is an implication from one part after the other;
* `Expr.evaluate_laws`: so the trees that these laws equate have the same value, or the same
  fault, and so have the five trees that ask for the truth of one expression.
-/
import Condition.Proofs.Evaluate.Outcome

namespace Condition

/-! ### Conditions -/

/-- What an expression counts for as a condition, or why it has no value. -/
def Expr.condition (e : Expr) : Except Failure Bool := truthOf e.outcome

/-- What a logical operator makes of two conditions. The right one is looked at only if the
left one does not decide. -/
def BinaryOperator.connect (op : BinaryOperator) (left right : Except Failure Bool) :
    Except Failure Bool :=
  left.bind fun l =>
    if op.decidedBy l then .ok (op.truth l false) else right.map (op.truth l)

/-- A boolean counts for itself. -/
lemma truthOf_map_boolean (x : Except Failure Bool) : truthOf (x.map .boolean) = x := by
  cases x <;> rfl

/-- **A logical operator** looks at its operands as conditions only. -/
lemma applyLogic_eq_connect {op : BinaryOperator} (hop : op.family = .logic)
    (left right : Outcome) :
    applyLogic op left right = (op.connect (truthOf left) (truthOf right)).map .boolean := by
  cases left with
  | error failure => rfl
  | ok l =>
      rw [applyLogic_ok hop]
      change _ = Except.map Value.boolean (if op.decidedBy l.isTruthy then _ else _)
      split
      · rfl
      · cases truthOf right <;> rfl

namespace BinaryOperator

section Laws

variable (x y z : Except Failure Bool)

/-- The operators whose chains can be regrouped: in each of these pairs, an operation of the
second on an operation of the first can be told in two steps of the second. -/
def regrouping : List (BinaryOperator × BinaryOperator) :=
  [(and, and), (or, or), (xor, xor), (and, implies)]

lemma family_of_regrouping : ∀ p ∈ regrouping, p.1.family = .logic ∧ p.2.family = .logic := by
  decide

/-- **Regrouping.** Conjunction, disjunction and exclusive or are associative, and what is
implied by a conjunction is implied by its parts one after the other. A failure of an operand
is reported on one side if and only if it is on the other. -/
lemma connect_connect {op op' : BinaryOperator} (h : (op, op') ∈ regrouping) :
    op'.connect (op.connect x y) z = op'.connect x (op'.connect y z) := by
  cases x with
  | error failure => rfl
  | ok l =>
      simp only [regrouping, List.mem_cons, Prod.mk.injEq, List.not_mem_nil, or_false] at h
      -- the truth tables, with what is left of each operand that may fail
      rcases h with ⟨rfl, rfl⟩ | ⟨rfl, rfl⟩ | ⟨rfl, rfl⟩ | ⟨rfl, rfl⟩ <;>
        cases l <;> cases y with
        | error failure => rfl
        | ok m => cases m <;> cases z with
          | error failure => rfl
          | ok n => cases n <;> rfl

/-- The right operands that leave the left one as it is. -/
def neutral : List (BinaryOperator × Bool) := [(and, true), (or, false), (xor, false)]

lemma family_of_neutral : ∀ p ∈ neutral, p.1.family = .logic := by
  decide

/-- **Neutral operands** on the right. -/
lemma connect_neutral {op : BinaryOperator} {r : Bool} (h : (op, r) ∈ neutral) :
    op.connect x (.ok r) = x := by
  cases x with
  | error failure => rfl
  | ok l =>
      simp only [neutral, List.mem_cons, Prod.mk.injEq, List.not_mem_nil, or_false] at h
      rcases h with ⟨rfl, rfl⟩ | ⟨rfl, rfl⟩ | ⟨rfl, rfl⟩ <;> cases l <;> rfl

/-- What a true condition implies counts for itself. -/
lemma connect_implies_true : implies.connect (.ok true) x = x := by
  cases x <;> rfl

end Laws

end BinaryOperator

/-- Beside a boolean a value counts for what it counts for as a condition. -/
lemma Value.looselyEqual_true (v : Value) : v.looselyEqual (.boolean true) = v.isTruthy := by
  cases v with
  | boolean b => cases b <;> rfl
  | number | string => exact Bool.true_beq _

/-! ### Trees -/

namespace Expr

/-- What an operation carries beside its operator and its operands: the spelling of the
operator, the place, and the depth that is recorded. -/
structure Label where
  symbol : String
  span : Span
  depth : Nat

/-- An operation with the label. -/
def Label.join (n : Label) (op : BinaryOperator) (left right : Expr) : Expr :=
  .binary op n.symbol left right n.span n.depth

section Operations

variable (n : Label) {op : BinaryOperator} (left right : Expr)

/-- **A logical operation** has the truth of its operands, whatever its label. -/
lemma evaluate_join (hop : op.family = .logic) :
    (n.join op left right).evaluate =
      (op.connect left.condition right.condition).map fun b => some (.boolean b) := by
  rw [Label.join, evaluate_binary, applyBinary, hop]
  change (applyLogic op left.outcome right.outcome).map some = _
  rw [applyLogic_eq_connect hop]
  change (Except.map _ (op.connect left.condition right.condition)).map some = _
  cases op.connect left.condition right.condition <;> rfl

/-- A logical operation as an operand. -/
lemma condition_join (hop : op.family = .logic) :
    (n.join op left right).condition = op.connect left.condition right.condition := by
  rw [condition, Label.join, outcome_binary, applyBinary, hop]
  change truthOf (applyLogic op left.outcome right.outcome) = _
  rw [applyLogic_eq_connect hop, truthOf_map_boolean]
  rfl

/-- Loose equality with a true value asks for the truth. -/
lemma evaluate_join_equal_true (s : Span) :
    (n.join .equal left (.literal (.boolean true) s)).evaluate =
      left.condition.map fun b => some (.boolean b) := by
  rw [Label.join, evaluate_binary, applyBinary, condition]
  change (applyEquality .equal left.outcome (.ok (.boolean true))).map some = _
  cases left.outcome with
  | error failure => rfl
  | ok v =>
      change Except.ok (some (Value.boolean (v.looselyEqual (.boolean true)))) = _
      rw [Value.looselyEqual_true]
      rfl

/-- A neutral operand leaves the truth of the other one. -/
lemma evaluate_neutral {r : Bool} (h : (op, r) ∈ BinaryOperator.neutral) (s : Span) :
    (n.join op left (.literal (.boolean r) s)).evaluate =
      left.condition.map fun b => some (.boolean b) := by
  rw [evaluate_join n _ _ (BinaryOperator.family_of_neutral _ h)]
  exact congrArg (Except.map _) (BinaryOperator.connect_neutral _ h)

end Operations

/-- Operations that are regrouped have the same value, or the same fault. -/
lemma evaluate_regrouped (op : BinaryOperator) {op' : BinaryOperator}
    (h : (op, op') ∈ BinaryOperator.regrouping) (a b c : Expr) (k m n p : Label) :
    (m.join op' (k.join op a b) c).evaluate = (p.join op' a (n.join op' b c)).evaluate := by
  obtain ⟨hop, hop'⟩ := BinaryOperator.family_of_regrouping _ h
  rw [evaluate_join m _ _ hop', evaluate_join p _ _ hop', condition_join k _ _ hop,
    condition_join n _ _ hop', BinaryOperator.connect_connect _ _ _ h]

/-- **The laws of the logical operators.** Whatever the labels of the operations are, and
whether the expressions `a`, `b` and `c` have values or not, the two trees of each of the
first four laws have the same value or the same fault. The five trees that ask for the truth
of `a` agree likewise: they have the value of that truth, or the fault of `a`. -/
theorem evaluate_laws (a b c : Expr) :
    (∀ k m n p : Label,
      (m.join .and (k.join .and a b) c).evaluate = (p.join .and a (n.join .and b c)).evaluate ∧
      (m.join .or (k.join .or a b) c).evaluate = (p.join .or a (n.join .or b c)).evaluate ∧
      (m.join .xor (k.join .xor a b) c).evaluate = (p.join .xor a (n.join .xor b c)).evaluate ∧
      (m.join .implies (k.join .and a b) c).evaluate =
        (p.join .implies a (n.join .implies b c)).evaluate) ∧
    ∃ truth : Except Failure (Option Value),
      (∀ (n : Label) (s : Span),
        (n.join .and a (.literal (.boolean true) s)).evaluate = truth ∧
        (n.join .or a (.literal (.boolean false) s)).evaluate = truth ∧
        (n.join .xor a (.literal (.boolean false) s)).evaluate = truth ∧
        (n.join .implies (.literal (.boolean true) s) a).evaluate = truth ∧
        (n.join .equal a (.literal (.boolean true) s)).evaluate = truth) ∧
      (∀ v, a.evaluate = .ok (some v) → truth = .ok (some (.boolean v.isTruthy))) ∧
      (a.evaluate = .ok none → truth = .error (.fault (.missingValue a.span))) ∧
      ∀ failure, a.evaluate = .error failure → truth = .error failure := by
  refine ⟨fun k m n p => ⟨?_, ?_, ?_, ?_⟩,
    a.condition.map fun b => some (.boolean b), fun n s => ⟨?_, ?_, ?_, ?_, ?_⟩, ?_, ?_, ?_⟩
  · exact evaluate_regrouped .and (by decide) a b c k m n p
  · exact evaluate_regrouped .or (by decide) a b c k m n p
  · exact evaluate_regrouped .xor (by decide) a b c k m n p
  · exact evaluate_regrouped .and (by decide) a b c k m n p
  · exact evaluate_neutral n a (by decide) s
  · exact evaluate_neutral n a (by decide) s
  · exact evaluate_neutral n a (by decide) s
  · rw [evaluate_join n _ _ rfl]
    exact congrArg (Except.map _) (BinaryOperator.connect_implies_true _)
  · exact evaluate_join_equal_true n a s
  · intro v hv
    rw [condition, outcome, hv]
    rfl
  · intro hnone
    rw [condition, outcome, hnone]
    rfl
  · intro failure hfailure
    rw [condition, outcome, hfailure]
    rfl

end Expr

end Condition
