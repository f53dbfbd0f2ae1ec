/-
Evaluation: the value of an expression.

* `applyUnary`, `applyLogic`, `applyEquality`, `applyRelation`, `applyBinary`:
  what an operator makes of the outcomes of its operands, which need not be
  values. Only the first failure in evaluation order is reported, and an operand
  that a logical operator does not need is not looked at;
* `Expr.evaluate`: the value of an expression, none for the blank one;
* `Expr.outcome`: the value of an operand, which has to be there.
-/
import Condition.Expr
import Condition.Fault
import Condition.Value.Equality

namespace Condition

/-- What became of an operand: its value, or why it has none. -/
abbrev Outcome := Except Failure Value

/-! ### Operators on outcomes -/

/-- The failure of an operator that was given a value of the wrong type. -/
def wrongType (operator : Operator) (symbol : String) (expected : ValueType) (value : Value)
    (span : Span) : Failure :=
  .fault (.invalidType operator symbol expected value.type span)

/-- A prefix operator on the operand at `span`: negation of a boolean, or change
of sign of a number. -/
def applyUnary (op : UnaryOperator) (symbol : String) (span : Span) (operand : Outcome) :
    Outcome := do
  let value ← operand
  match op, value with
  | .not, .boolean b => .ok (.boolean (!b))
  | .not, v => .error (wrongType (.unary .not) symbol .boolean v span)
  | .negate, .number n => .ok (.number n.negate)
  | .negate, v => .error (wrongType (.unary .negate) symbol .number v span)

/-- What an outcome counts for as a condition. -/
def truthOf (operand : Outcome) : Except Failure Bool := operand.map Value.isTruthy

/-- A logical operator. Conjunction, disjunction and implication need their right
operand only if the left one does not decide; exclusive or always needs both. -/
def applyLogic (op : BinaryOperator) (left right : Outcome) : Outcome := do
  let l ← truthOf left
  match op with
  | .and => if l then (truthOf right).map .boolean else .ok (.boolean false)
  | .or => if l then .ok (.boolean true) else (truthOf right).map .boolean
  | .implies => if l then (truthOf right).map .boolean else .ok (.boolean true)
  | .xor => (truthOf right).map fun r => .boolean (l != r)
  | _ => .error (.misapplied op)

/-- The answer of an equality operator about values that are, or are not,
equal. -/
def equalityAnswer (op : BinaryOperator) (areEqual : Bool) : Except Failure Bool :=
  match op with
  | .strictEqual | .equal => .ok areEqual
  | .strictNotEqual | .notEqual => .ok (!areEqual)
  | _ => .error (.misapplied op)

/-- The equality that an equality operator asks for. -/
def comparedBy (op : BinaryOperator) (l r : Value) : Bool :=
  match op with
  | .strictEqual | .strictNotEqual => l.strictlyEqual r
  | _ => l.looselyEqual r

/-- An equality operator. -/
def applyEquality (op : BinaryOperator) (left right : Outcome) : Outcome := do
  let l ← left
  let r ← right
  (equalityAnswer op (comparedBy op l r)).map .boolean

/-- The number that an operand of a relational operator has to be. The whole
comparison, at `span`, is reported otherwise. -/
def numberOf (op : BinaryOperator) (symbol : String) (span : Span) (operand : Outcome) :
    Except Failure Binary64 := do
  let value ← operand
  match value with
  | .number n => .ok n
  | v => .error (wrongType (.binary op) symbol .number v span)

/-- A relational operator on two numbers. The left operand has to be a number
before the right one is looked at. -/
def applyRelation (op : BinaryOperator) (symbol : String) (span : Span) (left right : Outcome) :
    Outcome := do
  let l ← numberOf op symbol span left
  let r ← numberOf op symbol span right
  match op with
  | .greater => .ok (.boolean (r.less l))
  | .less => .ok (.boolean (l.less r))
  | .greaterEqual => .ok (.boolean (r.lessOrEqual l))
  | .lessEqual => .ok (.boolean (l.lessOrEqual r))
  | _ => .error (.misapplied op)

/-- An infix operator, by its family. -/
def applyBinary (op : BinaryOperator) (symbol : String) (span : Span) (left right : Outcome) :
    Outcome :=
  match op.family with
  | .logic => applyLogic op left right
  | .equality => applyEquality op left right
  | .relation => applyRelation op symbol span left right

/-! ### Expressions -/

/-- The outcome of an operand at `span`: an operand has to have a value. -/
def required (span : Span) : Except Failure (Option Value) → Outcome
  | .ok (some v) => .ok v
  | .ok none => .error (.fault (.missingValue span))
  | .error failure => .error failure

namespace Expr

/-- The value of an expression; the blank expression has none. -/
def evaluate : Expr → Except Failure (Option Value)
  | empty _ => .ok none
  | literal value _ => .ok (some value)
  | unary op symbol operand _ _ =>
    (applyUnary op symbol operand.span (required operand.span operand.evaluate)).map some
  | binary op symbol left right span _ =>
    (applyBinary op symbol span (required left.span left.evaluate)
      (required right.span right.evaluate)).map some

/-- The outcome of an expression as an operand. -/
def outcome (e : Expr) : Outcome := required e.span e.evaluate

/-- The value of a unary operation is that of its operator on its operand's
outcome. -/
theorem evaluate_unary (op : UnaryOperator) (symbol : String) (operand : Expr) (span : Span)
    (depth : Nat) :
    (unary op symbol operand span depth).evaluate =
      (applyUnary op symbol operand.span operand.outcome).map some := rfl

/-- The value of a binary operation is that of its operator on its operands'
outcomes. -/
theorem evaluate_binary (op : BinaryOperator) (symbol : String) (left right : Expr) (span : Span)
    (depth : Nat) :
    (binary op symbol left right span depth).evaluate =
      (applyBinary op symbol span left.outcome right.outcome).map some := rfl

end Expr

end Condition
