/-
Parsing: from tokens to the tree of an expression.

An expression is a chain of operands at each precedence level, from `Level.equality`
down to `Level.comparison`; the operands of a level are chains of the next
tighter one, and those of the last level are prefix operators before a literal or
a parenthesised expression. Chains associate to the left, prefix operators to
the right.

* `Token.value?`: the value that a literal token stands for;
* `Text.unclosedParen`: the parenthesis that a text leaves open;
* `parseLevel`, `parseChain`: the chain of a level, and its part after an operand;
* `parseUnary`, `parsePrimary`, `parseGrouping`: the operands of the last level;
* `parseTokens`: a whole list of tokens.

Each step leaves fewer tokens than it was given (`Parsed.fewer`), which is why
parsing ends. At most `maxNesting` parentheses and prefix operators are open at
once, and no tree is deeper than `maxDepth`.
-/
import Condition.Expr
import Condition.Number.Numeral
import Condition.Token.Cursor

namespace Condition

/-! ### Literals -/

/-- The characters of a string literal between its quotes, escapes as they are
written. A text without quotes on both sides is kept whole. -/
def unquoted (lexeme : List Char) : List Char :=
  match lexeme with
  | '"' :: inner => if inner.getLast? = some '"' then inner.dropLast else lexeme
  | _ => lexeme

/-- The value of a literal token. A number has none if its text is not that of a
double. -/
def Token.value? (t : Token) : Option Value :=
  match t.kind with
  | .falseLiteral => some (.boolean false)
  | .trueLiteral => some (.boolean true)
  | .numberLiteral => (Binary64.read? t.lexeme.toList).map .number
  | .stringLiteral => some (.string (String.ofList (unquoted t.lexeme.toList)))
  | _ => none

/-! ### Open parentheses -/

namespace Text

/-- Searches a reversed text, which ends at the offset `stop`, with `pending`
closing parentheses to be matched and one more opening parenthesis wanted. The
answer is the offset of that one, or zero at the start of the text. -/
def unclosedFrom (pending stop : Nat) : List Char → Nat
  | [] => 0
  | c :: cs =>
    let start := stop - c.utf8Size
    if c = '(' then
      match pending with
      | 0 => start
      | n + 1 => unclosedFrom n start cs
    else if c = ')' then unclosedFrom (pending + 1) start cs
    else unclosedFrom pending start cs

/-- The offset of the last opening parenthesis that is left open at the end of
the text, or zero if there is none. Parentheses inside of strings count. -/
def unclosedParen (source : List Char) : Nat :=
  unclosedFrom 0 (width source) source.reverse

end Text

/-! ### Limits -/

/-- How many parentheses and prefix operators may be open at once. -/
def maxNesting : Nat := 64

/-- How deep a tree may be. -/
def maxDepth : Nat := 512

/-- Refuses a place that `token` has nested too deeply. -/
def checkNesting (token : Token) (c : Cursor) : Except Fault Unit :=
  if maxNesting < c.nesting then .error (.tooDeep token maxNesting) else .ok ()

/-- Refuses an expression that the operator `token` has made too deep. -/
def checkDepth (token : Token) (e : Expr) : Except Fault Unit :=
  if maxDepth < e.depth then .error (.tooDeep token maxDepth) else .ok ()

/-! ### The levels -/

/-- An expression and the place after it, with fewer than `bound` tokens left. -/
structure Parsed (bound : Nat) where
  expr : Expr
  next : Cursor
  fewer : next.rest.length < bound

/-- The same expression and place under a greater bound. -/
def Parsed.weaken {n m : Nat} (p : Parsed n) (h : n ≤ m) : Parsed m :=
  ⟨p.expr, p.next, Nat.lt_of_lt_of_le p.fewer h⟩

mutual

/-- Parses a chain of a level: an operand, and any number of operators of the
level with an operand each. -/
def parseLevel (source : List Char) (level : Level) (c : Cursor) :
    Except Fault (Parsed c.rest.length) := do
  let first ← parseOperand source level c
  let chain ← parseChain source level first.expr first.next
  return chain.weaken first.fewer
termination_by (c.rest.length, 2 * level.rank + 4)
decreasing_by
  · exact Prod.Lex.right _ (by omega)
  · exact Prod.Lex.left _ _ first.fewer

/-- Parses the operators and operands that follow `left` in a chain. -/
def parseChain (source : List Char) (level : Level) (left : Expr) (c : Cursor) :
    Except Fault (Parsed (c.rest.length + 1)) :=
  match h : c.rest with
  | [] => .ok ⟨left, c, by simp [h]⟩
  | token :: rest =>
    match token.kind.binaryAt? level with
    | none => .ok ⟨left, c, by simp [h]⟩
    | some op => do
      have hlt : c.advance.rest.length < rest.length + 1 := by
        simpa [h] using c.advance_lt h
      let right ← parseOperand source level c.advance
      let whole := Expr.joined op token.lexeme left right.expr
        ⟨left.span.start, right.expr.span.stop⟩
      checkDepth token whole
      have hnext := right.fewer
      let chain ← parseChain source level whole right.next
      return chain.weaken (by simp only [List.length_cons]; omega)
termination_by (c.rest.length, 0)
decreasing_by
  · exact Prod.Lex.left _ _ (by rw [h]; simpa using hlt)
  · exact Prod.Lex.left _ _ (by rw [h]; simp only [List.length_cons]; omega)

/-- Parses an operand of a level: a chain of the next tighter level, or a unary
expression if there is none. -/
def parseOperand (source : List Char) (level : Level) (c : Cursor) :
    Except Fault (Parsed c.rest.length) :=
  match _h : level.tighter with
  | some next => parseLevel source next c
  | none => parseUnary source c
termination_by (c.rest.length, 2 * level.rank + 3)
decreasing_by
  · have := Level.rank_tighter _h
    exact Prod.Lex.right _ (by omega)
  · exact Prod.Lex.right _ (by omega)

/-- Parses a unary expression: a prefix operator before a unary expression, or a
primary one. -/
def parseUnary (source : List Char) (c : Cursor) : Except Fault (Parsed c.rest.length) :=
  match h : c.rest with
  | [] => .error (c.missing source)
  | token :: rest =>
    match token.kind.unary? with
    | none => do
      let primary ← parsePrimary source c
      return primary.weaken (by simp [h])
    | some op => do
      have hlt : c.advance.opened.rest.length < rest.length + 1 := by
        simpa [h] using c.advance_lt h
      checkNesting token c.advance.opened
      let operand ← parseUnary source c.advance.opened
      let whole := Expr.prefixed op token.lexeme operand.expr
        ⟨token.offset, operand.expr.span.stop⟩
      checkDepth token whole
      have hnext := operand.fewer
      return ⟨whole, operand.next.leave, by
        simp only [Cursor.rest_leave, List.length_cons]
        omega⟩
termination_by (c.rest.length, 2)
decreasing_by
  · exact Prod.Lex.right _ (by omega)
  · exact Prod.Lex.left _ _ (by rw [h]; simpa using hlt)

/-- Parses a primary expression: a literal, or an expression in parentheses. -/
def parsePrimary (source : List Char) (c : Cursor) : Except Fault (Parsed c.rest.length) :=
  match h : c.rest with
  | [] => .error (c.missing source)
  | token :: rest =>
    if token.kind = .leftParen then do
      let group ← parseGrouping source c
      return group.weaken (by simp [h])
    else
      match token.value? with
      | none => .error (.unexpected token .forward)
      | some value =>
        .ok ⟨.literal value token.span, c.advance, by simpa [h] using c.advance_lt h⟩
termination_by (c.rest.length, 1)
decreasing_by exact Prod.Lex.right _ (by omega)

/-- Parses an expression in parentheses, the next token being the opening one.
The expression is the inner one, its span widened to the parentheses. -/
def parseGrouping (source : List Char) (c : Cursor) : Except Fault (Parsed c.rest.length) :=
  match h : c.rest with
  | [] => .error (c.missing source)
  | opening :: rest => do
    have hlt : c.advance.opened.rest.length < rest.length + 1 := by
      simpa [h] using c.advance_lt h
    checkNesting opening c.advance.opened
    let inner ← parseLevel source .equality c.advance.opened
    match hr : inner.next.rest with
    | [] => .error (.unclosed (Text.unclosedParen source))
    | closing :: _ =>
      if closing.kind = .rightParen then
        have hinner := inner.fewer
        have hclose := inner.next.advance_lt hr
        .ok ⟨inner.expr.withSpan ⟨opening.offset, closing.span.stop⟩,
          inner.next.advance.leave, by
            simp only [Cursor.rest_leave, List.length_cons]
            omega⟩
      else .error (.unexpected closing .forward)
termination_by (c.rest.length, 0)
decreasing_by exact Prod.Lex.left _ _ (by rw [h]; simpa using hlt)

end

/-- Parses a whole list of tokens of the text `source`. No tokens are the blank
expression, and tokens left over after an expression are a fault. -/
def parseTokens (source : List Char) (tokens : List Token) : Except Fault Expr :=
  if tokens = [] then .ok .blank
  else do
    let whole ← parseLevel source .equality (Cursor.start tokens)
    match whole.next.rest with
    | [] => .ok whole.expr
    | token :: _ => .error (.unexpected token .forward)

end Condition
