/-
Tokens: the words of the language.

* `TokenKind`: the kinds of tokens, with the operators that they spell
  (`TokenKind.binary?`, `TokenKind.unary?`);
* `Token`: a piece of source text with its kind and its offset.
-/
import Condition.Operator
import Condition.Span
import Condition.Text.Offset

namespace Condition

/-- The kind of a token. -/
inductive TokenKind where
  | stringLiteral
  | numberLiteral
  | falseLiteral
  | trueLiteral
  | conjunction
  | disjunction
  | equality
  | notEquality
  | equals
  | notEquals
  | implication
  | xor
  | greaterEqual
  | lessEqual
  | greater
  | less
  | not
  | minus
  | leftParen
  | rightParen
deriving DecidableEq, Repr

namespace TokenKind

/-- Whether a token of this kind can begin a value: a literal or an opening
parenthesis. -/
def beginsValue : TokenKind → Bool
  | stringLiteral | numberLiteral | falseLiteral | trueLiteral | leftParen => true
  | _ => false

/-- The infix operator that tokens of this kind spell. The minus is none. -/
def binary? : TokenKind → Option BinaryOperator
  | conjunction => some .and
  | disjunction => some .or
  | xor => some .xor
  | implication => some .implies
  | equality => some .strictEqual
  | notEquality => some .strictNotEqual
  | equals => some .equal
  | notEquals => some .notEqual
  | greater => some .greater
  | less => some .less
  | greaterEqual => some .greaterEqual
  | lessEqual => some .lessEqual
  | _ => none

/-- The prefix operator that tokens of this kind spell. -/
def unary? : TokenKind → Option UnaryOperator
  | not => some .not
  | minus => some .negate
  | _ => none

/-- The infix operator of the given level that tokens of this kind spell. -/
def binaryAt? (kind : TokenKind) (level : Level) : Option BinaryOperator :=
  kind.binary?.filter fun op => op.level = level

end TokenKind

/-- A piece of source text, its kind, and the offset of its first byte. -/
structure Token where
  lexeme : String
  kind : TokenKind
  offset : Nat
deriving DecidableEq, Repr

/-- The part of the source that a token covers. -/
def Token.span (t : Token) : Span := ⟨t.offset, t.offset + Text.width t.lexeme.toList⟩

end Condition
