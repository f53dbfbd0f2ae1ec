/-
The parser, phrase by phrase, without the bounds that its results carry.

* `Parsed.bare`: the expression and the place after it;
* `parsePhrase`, `parseRest`, `parseGroup`: what the parser makes of a phrase, of a
  chain after an operand, and of an expression in parentheses;
* the equations of these, one for each phrase and each token in front. Nothing else
  about the parser is unfolded anywhere.
-/
import Mathlib.Tactic.Lemma
import Condition.Proofs.Grammar

namespace Condition

/-- A result of parsing without the bound on the tokens left. -/
def Parsed.bare {n : Nat} (r : Except Fault (Parsed n)) : Except Fault (Expr × Cursor) :=
  r.map fun p => (p.expr, p.next)

/-- Parses a phrase. -/
def parsePhrase (source : List Char) : Phrase → Cursor → Except Fault (Expr × Cursor)
  | .chain level, c => Parsed.bare (parseLevel source level c)
  | .unary, c => Parsed.bare (parseUnary source c)
  | .primary, c => Parsed.bare (parsePrimary source c)

/-- Parses what follows the operand `left` in a chain. -/
def parseRest (source : List Char) (level : Level) (left : Expr) (c : Cursor) :
    Except Fault (Expr × Cursor) :=
  Parsed.bare (parseChain source level left c)

/-- Parses an expression in parentheses, whatever token stands for the opening one. -/
def parseGroup (source : List Char) (c : Cursor) : Except Fault (Expr × Cursor) :=
  Parsed.bare (parseGrouping source c)

/-! ### Sequences of steps -/

lemma Parsed.bare_bind {α : Type} {n : Nat} (x : Except Fault α)
    (g : α → Except Fault (Parsed n)) : bare (x >>= g) = x.bind fun a => bare (g a) := by
  cases x <;> rfl

lemma Parsed.bind_bare {β : Type} {n : Nat} (r : Except Fault (Parsed n))
    (g : Expr × Cursor → Except Fault β) :
    (bare r).bind g = r.bind fun p => g (p.expr, p.next) := by
  cases r <;> rfl

/-- A sequence of two steps fails in the first one or in the second one. -/
lemma bind_eq_error {ε α β : Type} {x : Except ε α} {f : α → Except ε β} {failure : ε}
    (h : x.bind f = .error failure) :
    x = .error failure ∨ ∃ a, x = .ok a ∧ f a = .error failure := by
  cases x with
  | error failure' => exact .inl (congrArg _ (Except.error.inj h))
  | ok a => exact .inr ⟨a, rfl, h⟩

/-- A sequence of two steps answers what the second one answers to the first. -/
lemma bind_eq_ok {ε α β : Type} {x : Except ε α} {f : α → Except ε β} {b : β}
    (h : x.bind f = .ok b) : ∃ a, x = .ok a ∧ f a = .ok b := by
  cases x with
  | error failure => cases h
  | ok a => exact ⟨a, rfl, h⟩

/-- The bound of a result is of no account. -/
lemma Parsed.bare_weaken {n m : Nat} (r : Except Fault (Parsed n)) (h : n ≤ m) :
    bare (r >>= fun p => pure (p.weaken h)) = bare r := by
  cases r <;> rfl

lemma bind_checkNesting {α : Type} (t : Token) (c : Cursor) (k : Unit → Except Fault α) :
    (checkNesting t c).bind k =
      if maxNesting < c.nesting then .error (.tooDeep t maxNesting) else k () := by
  rw [checkNesting]
  split <;> rfl

lemma bind_checkDepth {α : Type} (t : Token) (e : Expr) (k : Unit → Except Fault α) :
    (checkDepth t e).bind k =
      if maxDepth < e.depth then .error (.tooDeep t maxDepth) else k () := by
  rw [checkDepth]
  split <;> rfl

/-! ### The equations -/

section Equations

variable (source : List Char) (passed : List Token) (n : Nat)

lemma bare_parseOperand (level : Level) (c : Cursor) :
    Parsed.bare (parseOperand source level c) = parsePhrase source level.operands c := by
  rw [parseOperand]
  cases level <;> rfl

/-- A chain is an operand and what follows it. -/
lemma parsePhrase_chain (level : Level) (c : Cursor) :
    parsePhrase source (.chain level) c =
      (parsePhrase source level.operands c).bind fun p => parseRest source level p.1 p.2 := by
  rw [parsePhrase, parseLevel, Parsed.bare_bind, ← bare_parseOperand, Parsed.bind_bare]
  simp only [Parsed.bare_weaken, parseRest]

/-- A chain ends with the tokens. -/
lemma parseRest_nil (level : Level) (left : Expr) :
    parseRest source level left ⟨passed, [], n⟩ = .ok (left, ⟨passed, [], n⟩) := by
  rw [parseRest, parseChain]
  rfl

/-- A chain ends before a token that is no operator of its level. -/
lemma parseRest_stop {level : Level} {t : Token} (h : t.kind.binaryAt? level = none) (left : Expr)
    (ts : List Token) :
    parseRest source level left ⟨passed, t :: ts, n⟩ = .ok (left, ⟨passed, t :: ts, n⟩) := by
  rw [parseRest, parseChain]
  simp only [h]
  rfl

/-- An operator of the level takes one more operand. -/
lemma parseRest_joined {level : Level} {t : Token} {op : BinaryOperator}
    (h : t.kind.binaryAt? level = some op) (left : Expr) (ts : List Token) :
    parseRest source level left ⟨passed, t :: ts, n⟩ =
      (parsePhrase source level.operands ⟨t :: passed, ts, n⟩).bind fun right =>
        let whole := Expr.joined op t.lexeme left right.1 ⟨left.span.start, right.1.span.stop⟩
        (checkDepth t whole).bind fun _ => parseRest source level whole right.2 := by
  rw [parseRest, parseChain, ← bare_parseOperand, Parsed.bind_bare]
  simp only [h, Parsed.bare_bind, parseRest]
  rfl

/-- No operand begins where the tokens end. -/
lemma parsePhrase_unary_nil :
    parsePhrase source .unary ⟨passed, [], n⟩ = .error (Cursor.missing source ⟨passed, [], n⟩) := by
  rw [parsePhrase, parseUnary]
  rfl

lemma parsePhrase_primary_nil :
    parsePhrase source .primary ⟨passed, [], n⟩ =
      .error (Cursor.missing source ⟨passed, [], n⟩) := by
  rw [parsePhrase, parsePrimary]
  rfl

/-- No parenthesis is opened there either. -/
lemma parseGroup_nil :
    parseGroup source ⟨passed, [], n⟩ = .error (Cursor.missing source ⟨passed, [], n⟩) := by
  rw [parseGroup, parseGrouping]
  rfl

/-- A prefix operator takes a unary expression. -/
lemma parsePhrase_prefixed {t : Token} {op : UnaryOperator} (h : t.kind.unary? = some op)
    (ts : List Token) :
    parsePhrase source .unary ⟨passed, t :: ts, n⟩ =
      (checkNesting t ⟨t :: passed, ts, n + 1⟩).bind fun _ =>
        (parsePhrase source .unary ⟨t :: passed, ts, n + 1⟩).bind fun operand =>
          let whole := Expr.prefixed op t.lexeme operand.1 ⟨t.offset, operand.1.span.stop⟩
          (checkDepth t whole).bind fun _ => .ok (whole, operand.2.leave) := by
  rw [parsePhrase, parseUnary, parsePhrase]
  simp only [h, Parsed.bare_bind, Parsed.bind_bare]
  rfl

/-- A unary expression without a prefix operator is a primary one. -/
lemma parsePhrase_unary {t : Token} (h : t.kind.unary? = none) (ts : List Token) :
    parsePhrase source .unary ⟨passed, t :: ts, n⟩ =
      parsePhrase source .primary ⟨passed, t :: ts, n⟩ := by
  rw [parsePhrase, parseUnary, parsePhrase]
  simp only [h, Parsed.bare_weaken]

/-- Where a parenthesis is to be opened, one token is taken for it, then an expression, and a
closing parenthesis. -/
lemma parseGroup_cons (t : Token) (ts : List Token) :
    parseGroup source ⟨passed, t :: ts, n⟩ =
      (checkNesting t ⟨t :: passed, ts, n + 1⟩).bind fun _ =>
        (parsePhrase source (.chain .equality) ⟨t :: passed, ts, n + 1⟩).bind fun inner =>
          match inner.2.rest with
          | [] => .error (.unclosed (Text.unclosedParen source))
          | closing :: _ =>
            if closing.kind = .rightParen then
              .ok (inner.1.withSpan ⟨t.offset, closing.span.stop⟩, inner.2.advance.leave)
            else .error (.unexpected closing .forward) := by
  rw [parseGroup, parseGrouping, parsePhrase]
  simp only [Parsed.bare_bind, Parsed.bind_bare]
  congr 1
  funext _
  change (parseLevel source .equality ⟨t :: passed, ts, n + 1⟩).bind _ = _
  congr 1
  funext inner
  split
  · next hrest =>
      simp only [hrest]
      rfl
  · next closing tail hrest =>
      simp only [hrest]
      split <;> rfl

/-- A parenthesis opens an expression, and closes it again. -/
lemma parsePhrase_group {t : Token} (h : t.kind = .leftParen) (ts : List Token) :
    parsePhrase source .primary ⟨passed, t :: ts, n⟩ =
      (checkNesting t ⟨t :: passed, ts, n + 1⟩).bind fun _ =>
        (parsePhrase source (.chain .equality) ⟨t :: passed, ts, n + 1⟩).bind fun inner =>
          match inner.2.rest with
          | [] => .error (.unclosed (Text.unclosedParen source))
          | closing :: _ =>
            if closing.kind = .rightParen then
              .ok (inner.1.withSpan ⟨t.offset, closing.span.stop⟩, inner.2.advance.leave)
            else .error (.unexpected closing .forward) := by
  rw [← parseGroup_cons, parsePhrase, parsePrimary]
  simp only [h, if_true, Parsed.bare_weaken]
  rfl

/-- A literal stands for its value. -/
lemma parsePhrase_literal {t : Token} {v : Value} (h : t.value? = some v) (ts : List Token) :
    parsePhrase source .primary ⟨passed, t :: ts, n⟩ =
      .ok (.literal v t.span, ⟨t :: passed, ts, n⟩) := by
  have hk : t.kind ≠ .leftParen := by
    intro hk
    rw [Token.value?, hk] at h
    contradiction
  rw [parsePhrase, parsePrimary]
  simp only [hk, if_false, h]
  rfl

/-- No other token begins a primary expression. -/
lemma parsePhrase_unexpected {t : Token} (hk : t.kind ≠ .leftParen) (h : t.value? = none)
    (ts : List Token) :
    parsePhrase source .primary ⟨passed, t :: ts, n⟩ = .error (.unexpected t .forward) := by
  rw [parsePhrase, parsePrimary]
  simp only [hk, if_false, h]
  rfl

end Equations

end Condition
