/-
The operators of the language.

* `UnaryOperator`, `BinaryOperator`: prefix operators and infix operators;
* `BinaryOperator.family`: which of the three kinds of meaning an infix operator
  has;
* `Level`, `BinaryOperator.level`: how tightly it binds;
* `Operator.key`: the name of an operator in diagnostics.
-/

namespace Condition

/-- The prefix operators. -/
inductive UnaryOperator where
  | not
  | negate
deriving DecidableEq, Repr

/-- The infix operators. -/
inductive BinaryOperator where
  | and
  | or
  | xor
  | implies
  | strictEqual
  | strictNotEqual
  | equal
  | notEqual
  | greater
  | less
  | greaterEqual
  | lessEqual
deriving DecidableEq, Repr

/-- The three kinds of meaning of an infix operator. -/
inductive Family where
  | logic
  | equality
  | relation
deriving DecidableEq, Repr

/-- The precedence levels of the infix operators, from the loosest to the
tightest. -/
inductive Level where
  | equality
  | implication
  | disjunction
  | conjunction
  | xor
  | comparison
deriving DecidableEq, Repr

namespace Level

/-- The next tighter level; there is none after comparison, whose operands are
unary expressions. -/
def tighter : Level → Option Level
  | equality => some implication
  | implication => some disjunction
  | disjunction => some conjunction
  | conjunction => some xor
  | xor => some comparison
  | comparison => none

/-- The number of tighter levels. -/
def rank : Level → Nat
  | equality => 5
  | implication => 4
  | disjunction => 3
  | conjunction => 2
  | xor => 1
  | comparison => 0

theorem rank_tighter {level next : Level} (h : level.tighter = some next) :
    next.rank + 1 = level.rank := by
  cases level <;> simp [tighter] at h <;> subst h <;> rfl

end Level

namespace BinaryOperator

/-- The kind of meaning of an infix operator. -/
def family : BinaryOperator → Family
  | and | or | xor | implies => .logic
  | strictEqual | strictNotEqual | equal | notEqual => .equality
  | greater | less | greaterEqual | lessEqual => .relation

/-- The level of an infix operator. -/
def level : BinaryOperator → Level
  | and => .conjunction
  | or => .disjunction
  | xor => .xor
  | implies => .implication
  | strictEqual | strictNotEqual | equal | notEqual => .equality
  | greater | less | greaterEqual | lessEqual => .comparison

end BinaryOperator

/-- An operator of either kind. -/
inductive Operator where
  | unary (op : UnaryOperator)
  | binary (op : BinaryOperator)
deriving DecidableEq, Repr

/-- The message key of an operator. -/
def Operator.key : Operator → String
  | unary .not => "expressions-operator-not"
  | unary .negate => "expressions-operator-minus"
  | binary .and => "expressions-operator-conjunction"
  | binary .or => "expressions-operator-disjunction"
  | binary .xor => "expressions-operator-xor"
  | binary .implies => "expressions-operator-implication"
  | binary .strictEqual => "expressions-operator-equality"
  | binary .strictNotEqual => "expressions-operator-not-equality"
  | binary .equal => "expressions-operator-equals"
  | binary .notEqual => "expressions-operator-not-equals"
  | binary .greater => "expressions-operator-greater"
  | binary .less => "expressions-operator-less"
  | binary .greaterEqual => "expressions-operator-greater-equal"
  | binary .lessEqual => "expressions-operator-less-equal"

end Condition
