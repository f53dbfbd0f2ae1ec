/-
The parser looks at nothing of a token but its kind and its value.

* `parsePhrase_fewer`: a phrase takes tokens away;
* `parsePhrase_alike`: on alike tokens every call of the parser ends alike, whatever the
  two source texts are;
* `parseTokens_alike`: so does the parse of a whole list of tokens.
-/
import Condition.Proofs.Alike
import Condition.Proofs.Parse.Answer

namespace Condition

/-! ### The tokens that are left -/

/-- **A phrase takes tokens away.** -/
lemma parsePhrase_fewer {source : List Char} {p : Phrase} {c : Cursor} {r : Expr × Cursor}
    (h : parsePhrase source p c = .ok r) : r.2.rest.length < c.rest.length := by
  have hbare {x : Except Fault (Parsed c.rest.length)} (hx : Parsed.bare x = .ok r) :
      r.2.rest.length < c.rest.length := by
    cases x with
    | error f => cases hx
    | ok parsed =>
        obtain rfl := Except.ok.inj hx
        exact parsed.fewer
  cases p <;> exact hbare h

/-! ### Calls of the parser -/

variable {R : String → String → Prop}

/-- Two results of the parser: alike trees, and alike places after them. -/
def AlikeParsed (R : String → String → Prop) (p q : Expr × Cursor) : Prop :=
  Expr.Alike R p.1 q.1 ∧ Cursor.Alike R p.2 q.2

section Calls

variable {source source' : List Char} {passed passed' ts us : List Token} {n : Nat} {t u : Token}

/-- The limit of nesting is kept, or broken, by both tokens. -/
lemma checkNesting_alike {c d : Cursor} (ht : Token.Alike R t u) (hn : c.nesting = d.nesting) :
    Agree (Fault.Alike R) Eq (checkNesting t c) (checkNesting u d) := by
  rw [checkNesting, checkNesting, hn]
  split
  · exact .error (.tooDeep ht _)
  · exact .ok rfl

/-- The limit of depth is kept, or broken, by both trees. -/
lemma checkDepth_alike {e e' : Expr} (ht : Token.Alike R t u) (he : Expr.Alike R e e') :
    Agree (Fault.Alike R) Eq (checkDepth t e) (checkDepth u e') := by
  rw [checkDepth, checkDepth, he.depth_eq]
  split
  · exact .error (.tooDeep ht _)
  · exact .ok rfl

/-- Alike tokens are missing something behind them alike. -/
lemma missing_alike (hpassed : List.Forall₂ (Token.Alike R) passed passed') :
    Fault.Alike R (Cursor.missing source ⟨passed, [], n⟩)
      (Cursor.missing source' ⟨passed', [], n⟩) := by
  cases hpassed with
  | nil => exact .unexpectedEnd ..
  | cons h _ => exact .unexpected h _

/-- A prefix operator and what follows it. -/
lemma prefixed_alike {op : UnaryOperator} (hop : t.kind.unary? = some op)
    (ht : Token.Alike R t u)
    (h : Agree (Fault.Alike R) (AlikeParsed R)
      (parsePhrase source .unary ⟨t :: passed, ts, n + 1⟩)
      (parsePhrase source' .unary ⟨u :: passed', us, n + 1⟩)) :
    Agree (Fault.Alike R) (AlikeParsed R) (parsePhrase source .unary ⟨passed, t :: ts, n⟩)
      (parsePhrase source' .unary ⟨passed', u :: us, n⟩) := by
  rw [parsePhrase_prefixed source passed n hop,
    parsePhrase_prefixed source' passed' n (ht.kind_eq ▸ hop)]
  refine (checkNesting_alike ht rfl).bind fun _ _ _ _ => h.bind fun p q _ hpq => ?_
  obtain ⟨hexpr, hnext⟩ := hpq
  have hwhole := hexpr.prefixed op ht.lexeme ⟨t.offset, p.1.span.stop⟩ ⟨u.offset, q.1.span.stop⟩
  refine (checkDepth_alike ht hwhole).bind fun _ _ _ _ => .ok ⟨hwhole, ?_⟩
  exact ⟨hnext.passed, hnext.rest, congrArg (· - 1) hnext.nesting_eq⟩

/-- A parenthesis and what follows it. -/
lemma group_alike (hkind : t.kind = .leftParen) (ht : Token.Alike R t u)
    (h : Agree (Fault.Alike R) (AlikeParsed R)
      (parsePhrase source (.chain .equality) ⟨t :: passed, ts, n + 1⟩)
      (parsePhrase source' (.chain .equality) ⟨u :: passed', us, n + 1⟩)) :
    Agree (Fault.Alike R) (AlikeParsed R) (parsePhrase source .primary ⟨passed, t :: ts, n⟩)
      (parsePhrase source' .primary ⟨passed', u :: us, n⟩) := by
  rw [parsePhrase_group source passed n hkind,
    parsePhrase_group source' passed' n (ht.kind_eq ▸ hkind)]
  refine (checkNesting_alike ht rfl).bind fun _ _ _ _ => h.bind fun p q _ hpq => ?_
  obtain ⟨e, pbefore, prest, k⟩ := p
  obtain ⟨e', qbefore, qrest, l⟩ := q
  obtain ⟨hexpr, hbefore, hrest, hnesting⟩ := hpq
  cases hrest with
  | nil => exact .error (.unclosed ..)
  | @cons closing closing' rest rest' hclosing hrest =>
      simp only [hclosing.kind_eq]
      split
      · refine .ok ⟨hexpr.withSpan _ _, .cons hclosing hbefore, hrest, ?_⟩
        exact congrArg (· - 1) hnesting
      · exact .error (.unexpected hclosing _)

/-- A literal, or a token that cannot stand there. -/
lemma literal_alike (hkind : t.kind ≠ .leftParen) (ht : Token.Alike R t u)
    (hpassed : List.Forall₂ (Token.Alike R) passed passed')
    (hts : List.Forall₂ (Token.Alike R) ts us) :
    Agree (Fault.Alike R) (AlikeParsed R) (parsePhrase source .primary ⟨passed, t :: ts, n⟩)
      (parsePhrase source' .primary ⟨passed', u :: us, n⟩) := by
  cases hv : t.value? with
  | some v =>
      rw [parsePhrase_literal source passed n hv,
        parsePhrase_literal source' passed' n (ht.value?_eq ▸ hv)]
      exact .ok ⟨.literal .., .cons ht hpassed, hts, rfl⟩
  | none =>
      rw [parsePhrase_unexpected source passed n hkind hv,
        parsePhrase_unexpected source' passed' n (ht.kind_eq ▸ hkind) (ht.value?_eq ▸ hv)]
      exact .error (.unexpected ht _)

/-- **A chain after an operand.** If its operands are parsed alike, so is the chain. -/
lemma parseRest_alike {level : Level} {c d : Cursor} {left left' : Expr}
    (hoperand : ∀ c d : Cursor, c.rest.length < ts.length → Cursor.Alike R c d →
      Agree (Fault.Alike R) (AlikeParsed R) (parsePhrase source level.operands c)
        (parsePhrase source' level.operands d))
    (hc : c.rest = ts) (hcd : Cursor.Alike R c d) (hleft : Expr.Alike R left left') :
    Agree (Fault.Alike R) (AlikeParsed R) (parseRest source level left c)
      (parseRest source' level left' d) := by
  induction hlen : ts.length using Nat.strongRecOn generalizing ts c d left left' with
  | _ m ih =>
  obtain ⟨passed, rest, n⟩ := c
  obtain ⟨passed', rest', n'⟩ := d
  obtain ⟨hpassed, hrest, hn⟩ := hcd
  obtain rfl : rest = ts := hc
  obtain rfl : n = n' := hn
  cases hrest with
  | nil =>
      rw [parseRest_nil, parseRest_nil]
      exact .ok ⟨hleft, hpassed, .nil, rfl⟩
  | @cons t u ts us ht hts =>
      cases hop : t.kind.binaryAt? level with
      | none =>
          rw [parseRest_stop source passed n hop,
            parseRest_stop source' passed' n (ht.kind_eq ▸ hop)]
          exact .ok ⟨hleft, hpassed, .cons ht hts, rfl⟩
      | some op =>
          rw [parseRest_joined source passed n hop,
            parseRest_joined source' passed' n (ht.kind_eq ▸ hop)]
          have hnext : Cursor.Alike R ⟨t :: passed, ts, n⟩ ⟨u :: passed', us, n⟩ :=
            ⟨.cons ht hpassed, hts, rfl⟩
          refine (hoperand _ _ (Nat.lt_succ_self _) hnext).bind fun p q hp hpq => ?_
          obtain ⟨hright, hplace⟩ := hpq
          have hwhole := hleft.joined hright op ht.lexeme ⟨left.span.start, p.1.span.stop⟩
            ⟨left'.span.start, q.1.span.stop⟩
          refine (checkDepth_alike ht hwhole).bind fun _ _ _ _ => ?_
          have hfewer : p.2.rest.length < (t :: ts).length :=
            Nat.lt_succ_of_lt (parsePhrase_fewer hp)
          exact ih _ (hlen ▸ hfewer) (fun c d hlt => hoperand c d (Nat.lt_trans hlt hfewer))
            rfl hplace hwhole rfl

end Calls

/-- **Every call of the parser** ends alike on alike tokens. A primary expression is only
looked for where no prefix operator stands. -/
theorem parsePhrase_alike (source source' : List Char) (p : Phrase) (hp : p ≠ .primary)
    (c d : Cursor) (hcd : Cursor.Alike R c d) :
    Agree (Fault.Alike R) (AlikeParsed R) (parsePhrase source p c) (parsePhrase source' p d) := by
  match p, c, d, hcd with
  | .primary, _, _, _ => exact absurd rfl hp
  | .unary, ⟨passed, [], n⟩, ⟨passed', us, n'⟩, ⟨hpassed, hts, hn⟩ =>
      obtain rfl : n = n' := hn
      obtain rfl := List.forall₂_nil_left_iff.mp hts
      rw [parsePhrase_unary_nil, parsePhrase_unary_nil]
      exact .error (missing_alike hpassed)
  | .unary, ⟨passed, t :: ts, n⟩, ⟨passed', us, n'⟩, ⟨hpassed, hrest, hn⟩ =>
      obtain rfl : n = n' := hn
      obtain ⟨u, us, ht, hts, rfl⟩ := List.forall₂_cons_left_iff.mp hrest
      have hnext : Cursor.Alike R ⟨t :: passed, ts, n + 1⟩ ⟨u :: passed', us, n + 1⟩ :=
        ⟨.cons ht hpassed, hts, rfl⟩
      cases hop : t.kind.unary? with
      | some op =>
          exact prefixed_alike hop ht (parsePhrase_alike source source' .unary hp _ _ hnext)
      | none =>
          rw [parsePhrase_unary source passed n hop,
            parsePhrase_unary source' passed' n (ht.kind_eq ▸ hop)]
          by_cases hkind : t.kind = .leftParen
          · exact group_alike hkind ht
              (parsePhrase_alike source source' (.chain .equality) (by simp) _ _ hnext)
          · exact literal_alike hkind ht hpassed hts
  | .chain level, ⟨passed, ts, n⟩, d, hcd =>
      rw [parsePhrase_chain, parsePhrase_chain]
      have hoperands := level.operands_ne_primary
      have hfirst := parsePhrase_alike source source' level.operands hoperands _ _ hcd
      have hlater : ∀ c d : Cursor, c.rest.length < ts.length → Cursor.Alike R c d →
          Agree (Fault.Alike R) (AlikeParsed R) (parsePhrase source level.operands c)
            (parsePhrase source' level.operands d) :=
        fun c d _ hcd => parsePhrase_alike source source' level.operands hoperands c d hcd
      refine hfirst.bind fun p q hp hpq => ?_
      exact parseRest_alike (fun c d hlt => hlater c d (Nat.lt_trans hlt (parsePhrase_fewer hp)))
        rfl hpq.2 hpq.1
termination_by (c.rest.length, p.rank)
decreasing_by
  · exact Prod.Lex.left _ _ (by simp)
  · exact Prod.Lex.left _ _ (by simp)
  · exact Prod.Lex.right _ (Level.rank_operands_lt level)
  · exact Prod.Lex.left _ _ (by assumption)

/-! ### Whole lists of tokens -/

/-- **Alike tokens are parsed alike**, into alike trees or to alike faults. -/
theorem parseTokens_alike (source source' : List Char) {ts us : List Token}
    (h : List.Forall₂ (Token.Alike R) ts us) :
    Agree (Fault.Alike R) (Expr.Alike R) (parseTokens source ts) (parseTokens source' us) := by
  cases h with
  | nil => exact .ok (.empty ..)
  | @cons t u ts us ht hts =>
      rw [parseTokens_eq source (List.cons_ne_nil _ _),
        parseTokens_eq source' (List.cons_ne_nil _ _)]
      have hstart : Cursor.Alike R ⟨[], t :: ts, 0⟩ ⟨[], u :: us, 0⟩ := ⟨.nil, .cons ht hts, rfl⟩
      refine (parsePhrase_alike source source' (.chain .equality) (by simp) _ _ hstart).bind
        fun p q _ hpq => ?_
      obtain ⟨e, pbefore, prest, k⟩ := p
      obtain ⟨e', qbefore, qrest, l⟩ := q
      obtain ⟨hexpr, -, hrest, -⟩ := hpq
      cases hrest with
      | nil => exact .ok hexpr
      | cons hleft _ => exact .error (.unexpected hleft _)

end Condition
