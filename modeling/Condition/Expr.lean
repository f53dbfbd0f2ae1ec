/-
Expressions.

* `Expr`: the tree of an expression; every node has the span of its text, and an
  operation also carries its depth and the spelling of its operator;
* `Expr.prefixed`, `Expr.joined`: the operations on given operands, one node
  deeper than the deepest of them;
* `Expr.withSpan`: the expression with another span at its root;
* `Expr.nodes`: an expression and all expressions in it, in reading order of the
  tree: parents first, then operands from left to right.
-/
import Condition.Operator
import Condition.Span
import Condition.Value

namespace Condition

/-- The tree of an expression. -/
inductive Expr where
  /-- The expression of a text without tokens. -/
  | empty (span : Span)
  | literal (value : Value) (span : Span)
  | unary (op : UnaryOperator) (symbol : String) (operand : Expr) (span : Span) (depth : Nat)
  | binary (op : BinaryOperator) (symbol : String) (left right : Expr) (span : Span) (depth : Nat)
deriving DecidableEq

namespace Expr

/-- The part of the source that the expression covers. A parenthesised
expression covers its parentheses. -/
def span : Expr → Span
  | empty span => span
  | literal _ span => span
  | unary _ _ _ span _ => span
  | binary _ _ _ _ span _ => span

/-- The depth recorded in the root: the number of nodes on the longest path down
to a leaf. -/
def depth : Expr → Nat
  | empty _ => 1
  | literal _ _ => 1
  | unary _ _ _ _ depth => depth
  | binary _ _ _ _ _ depth => depth

/-- The expression of a text without tokens. -/
def blank : Expr := empty .origin

/-- A prefix operator before its operand. -/
def prefixed (op : UnaryOperator) (symbol : String) (operand : Expr) (span : Span) : Expr :=
  unary op symbol operand span (1 + operand.depth)

/-- An infix operator between its operands. -/
def joined (op : BinaryOperator) (symbol : String) (left right : Expr) (span : Span) : Expr :=
  binary op symbol left right span (1 + max left.depth right.depth)

/-- The expression with another span at its root. -/
def withSpan (s : Span) : Expr → Expr
  | empty _ => empty s
  | literal value _ => literal value s
  | unary op symbol operand _ depth => unary op symbol operand s depth
  | binary op symbol left right _ depth => binary op symbol left right s depth

@[simp] theorem span_withSpan (e : Expr) (s : Span) : (e.withSpan s).span = s := by
  cases e <;> rfl

@[simp] theorem depth_withSpan (e : Expr) (s : Span) : (e.withSpan s).depth = e.depth := by
  cases e <;> rfl

/-- Whether this is the expression of a text without tokens. -/
def isEmpty : Expr → Bool
  | empty _ => true
  | _ => false

/-- The expression and all expressions in it, parents first. -/
def nodes : Expr → List Expr
  | empty span => [empty span]
  | literal value span => [literal value span]
  | unary op symbol operand span depth => unary op symbol operand span depth :: operand.nodes
  | binary op symbol left right span depth =>
    binary op symbol left right span depth :: (left.nodes ++ right.nodes)

end Expr

end Condition
