/-
The core of a phrase, which may stand in parentheses.

* `CoreOf`: the tokens of a literal, or an operator with the tokens of its operands;
* `Derives.exists_core`: a phrase is its core, with opening parentheses before it and as many
  closing ones behind it.
-/
import Condition.Proofs.Grammar

namespace Condition

/-- **The core of a phrase**: a literal, or an operator and the phrases of its operands. The
span of the tree and its depth are of no account. -/
inductive CoreOf : List Token → Expr → Prop where
  | literal {t : Token} {v : Value} {span : Span} (hv : t.value? = some v) :
      CoreOf [t] (.literal v span)
  | unary {t : Token} {op : UnaryOperator} {p : Phrase} {ts : List Token} {opens : List Nat}
      {operand : Expr} {span : Span} {depth : Nat} (ht : t.kind.unary? = some op)
      (h : Derives p ts opens operand) : CoreOf (t :: ts) (.unary op t.lexeme operand span depth)
  | binary {t : Token} {op : BinaryOperator} {p q : Phrase} {ts us : List Token}
      {opens opens' : List Nat} {l r : Expr} {span : Span} {depth : Nat} (hl : Derives p ts opens l)
      (ht : t.kind.binary? = some op) (hr : Derives q us opens' r) :
      CoreOf (ts ++ t :: us) (.binary op t.lexeme l r span depth)

lemma CoreOf.tokens_ne_nil {ts : List Token} {e : Expr} (h : CoreOf ts e) : ts ≠ [] := by
  cases h <;> simp

lemma CoreOf.withSpan {ts : List Token} {e : Expr} (h : CoreOf ts e) (s : Span) :
    CoreOf ts (e.withSpan s) := by
  cases h with
  | literal hv => exact .literal hv
  | unary ht h => exact .unary ht h
  | binary hl ht hr => exact .binary hl ht hr

/-- **A phrase is its core in parentheses**: each pair around it opens before the core and
closes behind it. -/
theorem Derives.exists_core {p : Phrase} {ts : List Token} {opens : List Nat} {e : Expr}
    (h : Derives p ts opens e) :
    ∃ front core back, ts = front ++ core ++ back ∧ CoreOf core e ∧
      (∀ t ∈ front, t.kind = .leftParen) ∧ (∀ t ∈ back, t.kind = .rightParen) ∧
      front.length = back.length := by
  induction h with
  | @literal t v hv =>
      exact ⟨[], [t], [], rfl, .literal hv, List.forall_mem_nil _, List.forall_mem_nil _, rfl⟩
  | @group opening closing ts opens e ho _ hc ih =>
      obtain ⟨front, core, back, rfl, hcore, hfront, hback, hlength⟩ := ih
      refine ⟨opening :: front, core, back ++ [closing], by simp, hcore.withSpan _, ?_, ?_, ?_⟩
      · exact List.forall_mem_cons.mpr ⟨ho, hfront⟩
      · exact List.forall_mem_append.mpr ⟨hback, List.forall_mem_singleton.mpr hc⟩
      · rw [List.length_cons, List.length_append, List.length_singleton, hlength]
  | primary _ ih | operand _ ih => exact ih
  | @prefixed t op ts opens e ht h _ =>
      exact ⟨[], t :: ts, [], by simp, .unary ht h, List.forall_mem_nil _, List.forall_mem_nil _,
        rfl⟩
  | @joined level t op ts us opens opens' l r hl ht hop hr _ _ =>
      exact ⟨[], ts ++ t :: us, [], by simp, .binary hl ht hr, List.forall_mem_nil _,
        List.forall_mem_nil _, rfl⟩

end Condition
