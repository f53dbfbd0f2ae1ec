/-
Parts of an expression, told by the tokens before them.

* `Extends`: a chain from left to right, from the tree of its first operands to its own;
* `Derives.extends_front`: where a phrase begins with tokens that are one, and that nothing
  continues which binds more tightly, its tree grows from theirs;
* `Ahead`: which phrases begin behind some tokens, as parts of an expression;
* `Ahead.exists_node`: the tree of such a part is a node of the tree of the expression.
-/
import Condition.Proofs.Parse.Accept

namespace Condition

/-! ### Chains from left to right -/

/-- **A chain goes on.** With the tokens `vs` behind it, operators of the level with an operand
each, a chain with the tree `l` is one with the tree `e`. -/
inductive Extends (level : Level) : Expr → List Token → Expr → Prop where
  | refl (e : Expr) : Extends level e [] e
  | joined {t : Token} {op : BinaryOperator} {us vs : List Token} {opens : List Nat} {l r e : Expr}
      (ht : t.kind.binary? = some op) (hop : op.level = level)
      (hr : Derives level.operands us opens r)
      (h : Extends level (.joined op t.lexeme l r ⟨l.span.start, r.span.stop⟩) vs e) :
      Extends level l (t :: (us ++ vs)) e

namespace Extends

variable {level : Level} {vs : List Token} {l e : Expr}

/-- One more operator and operand at the end. -/
lemma concat {t : Token} {op : BinaryOperator} {us : List Token} {opens : List Nat} {r : Expr}
    (h : Extends level l vs e) (ht : t.kind.binary? = some op) (hop : op.level = level)
    (hr : Derives level.operands us opens r) :
    Extends level l (vs ++ t :: us) (.joined op t.lexeme e r ⟨e.span.start, r.span.stop⟩) := by
  induction h with
  | refl e =>
      have hlast := Extends.joined ht hop hr (.refl (.joined op t.lexeme e r _))
      rwa [List.append_nil] at hlast
  | joined ht' hop' hr' _ ih =>
      rw [List.cons_append, List.append_assoc]
      exact .joined ht' hop' hr' ih

/-- The nodes of the first operands stay nodes. -/
lemma mem_nodes {n : Expr} (h : Extends level l vs e) (hn : n ∈ l.nodes) : n ∈ e.nodes := by
  induction h with
  | refl => exact hn
  | joined _ _ _ _ ih => exact ih (List.mem_cons_of_mem _ (List.mem_append_left _ hn))

/-- What goes on behind an operand does not continue the operand. -/
lemma stops {rest : List Token} (h : Extends level l vs e)
    (hrest : Stops (Phrase.chain level).bound rest) : Stops level.operands.bound (vs ++ rest) := by
  rw [Level.bound_operands]
  cases h with
  | refl => exact hrest.mono (Nat.le_succ _)
  | joined ht hop => exact hop ▸ stops_of_binary ht

/-- Tokens that do not continue the chain do not go on with it. -/
lemma eq_nil {more rest : List Token} (h : Extends level l vs e)
    (hmore : Stops (Phrase.chain level).bound more) (heq : more = vs ++ rest) :
    vs = [] ∧ e = l := by
  cases h with
  | refl => exact ⟨rfl, rfl⟩
  | joined ht hop =>
      rw [heq, List.cons_append] at hmore
      exact absurd hmore (hop ▸ not_stops_of_binary ht)

/-- In front of an operator of the level a chain goes on with the operator and an operand. -/
lemma exists_joined {t : Token} {op : BinaryOperator} {more rest : List Token}
    (h : Extends level l vs e) (heq : t :: more = vs ++ rest) (ht : t.kind.binary? = some op)
    (hop : op.level = level) (hrest : Stops (Phrase.chain level).bound rest) :
    ∃ us vs' opens r, vs = t :: (us ++ vs') ∧ more = us ++ (vs' ++ rest) ∧
      Derives level.operands us opens r ∧
      Extends level (.joined op t.lexeme l r ⟨l.span.start, r.span.stop⟩) vs' e := by
  cases h with
  | refl =>
      obtain rfl : t :: more = rest := heq
      exact absurd hrest (hop ▸ not_stops_of_binary ht)
  | @joined t' op' us vs opens _ r _ ht' hop' hr h =>
      rw [List.cons_append, List.append_assoc] at heq
      obtain ⟨rfl, hmore⟩ := List.cons.inj heq
      obtain rfl := Option.some.inj (ht.symm.trans ht')
      exact ⟨us, vs, opens, r, rfl, hmore, hr, h⟩

end Extends

/-- A chain is its first operand, and what goes on behind it. -/
lemma Derives.exists_extends {level : Level} {ws : List Token} {opens : List Nat} {e : Expr}
    (h : Derives (.chain level) ws opens e) :
    ∃ us vs os l, ws = us ++ vs ∧ Derives level.operands us os l ∧ Extends level l vs e := by
  generalize hp : Phrase.chain level = p at h
  induction h with
  | literal | group | primary | prefixed => contradiction
  | @operand level' ts opens e h =>
      obtain rfl := Phrase.chain.inj hp
      exact ⟨ts, [], opens, e, by rw [List.append_nil], h, .refl e⟩
  | @joined level' t op ts us opens opens' l r hl ht hop hr ihl =>
      obtain rfl := Phrase.chain.inj hp
      obtain ⟨first, vs, os, l', rfl, hfirst, hvs⟩ := ihl rfl
      exact ⟨first, vs ++ t :: us, os, l', by rw [List.append_assoc], hfirst,
        hvs.concat ht hop hr⟩

/-! ### How a phrase begins -/

/-- A phrase with the tree `l` and the tokens `vs` behind it make up one with the tree `e`. Only
chains go on. -/
def Phrase.Grows : Phrase → Expr → List Token → Expr → Prop
  | chain level, l, vs, e => Extends level l vs e
  | unary, l, vs, e => vs = [] ∧ e = l
  | primary, l, vs, e => vs = [] ∧ e = l

/-- Tokens that do not continue a phrase do not make it grow. -/
lemma Phrase.Grows.eq_nil {p : Phrase} {vs more rest : List Token} {l e : Expr}
    (h : p.Grows l vs e) (hmore : Stops p.bound more) (heq : more = vs ++ rest) :
    vs = [] ∧ e = l := by
  cases p with
  | chain level => exact Extends.eq_nil h hmore heq
  | unary | primary => exact h

/-- The nodes of a phrase stay nodes. -/
lemma Phrase.Grows.mem_nodes {p : Phrase} {vs : List Token} {l e n : Expr}
    (h : p.Grows l vs e) (hn : n ∈ l.nodes) : n ∈ e.nodes := by
  cases p with
  | chain level => exact Extends.mem_nodes h hn
  | unary | primary => exact h.2 ▸ hn

/-- **How a phrase begins.** Where no operator follows the tokens `us` that binds more tightly
than a phrase of the kind does, every such phrase that is taken from there as far as it goes
begins with them, and its tree grows from `l`. -/
def Begins (p : Phrase) (us : List Token) (l : Expr) : Prop :=
  ∀ ⦃ws more rest : List Token⦄ ⦃opens : List Nat⦄ ⦃e : Expr⦄, Derives p ws opens e →
    us ++ more = ws ++ rest → Stops p.innerBound more → Stops p.bound rest →
    ∃ vs, ws = us ++ vs ∧ p.Grows l vs e

/-- If nothing continues the tokens, they are all of the phrase. -/
lemma Begins.eq {p : Phrase} {us ws more rest : List Token} {opens : List Nat} {l e : Expr}
    (hbegins : Begins p us l) (h : Derives p ws opens e) (heq : us ++ more = ws ++ rest)
    (hmore : Stops p.bound more) (hrest : Stops p.bound rest) : ws = us ∧ e = l := by
  obtain ⟨vs, rfl, hvs⟩ := hbegins h heq (hmore.mono (Phrase.innerBound_le _)) hrest
  rw [List.append_assoc, List.append_cancel_left_eq] at heq
  obtain ⟨rfl, rfl⟩ := hvs.eq_nil hmore heq
  exact ⟨List.append_nil us, rfl⟩

/-- No tokens begin with a primary expression and with a prefix operator. -/
lemma Derives.unary?_of_eq {t : Token} {ws more rest : List Token} {opens : List Nat} {e : Expr}
    (h : Derives .primary ws opens e) (heq : ws ++ rest = t :: more) : t.kind.unary? = none := by
  obtain ⟨u, us, rfl⟩ := List.exists_cons_of_ne_nil h.tokens_ne_nil
  obtain rfl : u = t := (List.cons.inj heq).1
  exact h.unary?_head

/-- A phrase begins every phrase of its kind. -/
lemma Derives.begins {p : Phrase} {us : List Token} {opens : List Nat} {l : Expr}
    (h : Derives p us opens l) : Begins p us l := by
  induction h with
  | @literal t v hv =>
      intro ws more rest opens e h heq _ _
      rcases h.primary_cases with ⟨t', v', rfl, -, rfl, hv'⟩ | ⟨o, c, ts, os, e', rfl, -, -, ho, -⟩
      · obtain rfl := (List.cons.inj heq).1
        rw [hv, Option.some.injEq] at hv'
        exact ⟨[], rfl, rfl, by rw [hv']⟩
      · obtain rfl := (List.cons.inj heq).1
        rw [Token.value?, ho] at hv
        contradiction
  | @group opening closing ts opens l ho h hc ih =>
      intro ws more rest opens' e h' heq _ _
      rcases h'.primary_cases with
        ⟨t, v, rfl, -, -, hv⟩ | ⟨o, c, us, os, e', rfl, -, rfl, -, he, hc'⟩
      · obtain rfl := (List.cons.inj heq).1
        rw [Token.value?, ho] at hv
        contradiction
      · rw [List.cons_append, List.cons_append, List.append_assoc, List.append_assoc] at heq
        obtain ⟨rfl, htail⟩ := List.cons.inj heq
        obtain ⟨rfl, rfl⟩ :=
          ih.eq he htail (stops_of_rightParen hc _) (stops_of_rightParen hc' _)
        obtain rfl := (List.cons.inj (List.append_cancel_left htail)).1
        exact ⟨[], (List.append_nil _).symm, rfl, rfl⟩
  | @primary ts opens l h ih =>
      intro ws more rest opens' e h' heq hmore hrest
      rcases h'.unary_cases with h' | ⟨t, op, us, os, e', rfl, -, -, ht, -⟩
      · exact ih h' heq hmore hrest
      · rw [h.unary?_of_eq heq] at ht
        contradiction
  | @prefixed t op ts opens l ht h ih =>
      intro ws more rest opens' e h' heq hmore hrest
      rcases h'.unary_cases with h' | ⟨t', op', us, os, e', rfl, -, rfl, ht', he⟩
      · rw [h'.unary?_of_eq heq.symm] at ht
        contradiction
      · obtain ⟨rfl, htail⟩ := List.cons.inj heq
        obtain ⟨rfl, rfl⟩ := ih.eq he htail hmore hrest
        rw [ht, Option.some.injEq] at ht'
        exact ⟨[], (List.append_nil _).symm, rfl, by rw [ht']⟩
  | @operand level ts opens l h ih =>
      intro ws more rest opens' e h' heq hmore hrest
      obtain ⟨us, vs, os, l', rfl, hfirst, hvs⟩ := h'.exists_extends
      have hmore : Stops level.operands.bound more := by rwa [Level.bound_operands]
      rw [List.append_assoc] at heq
      obtain ⟨rfl, rfl⟩ := ih.eq hfirst heq hmore (hvs.stops hrest)
      exact ⟨vs, rfl, hvs⟩
  | @joined level t op ts us opens os l r hl ht hop hr ihl ihr =>
      intro ws more rest opens' e h' heq hmore hrest
      rw [List.append_assoc, List.cons_append] at heq
      have hoperator : Stops (Phrase.chain level).innerBound (t :: (us ++ more)) :=
        hop ▸ stops_of_binary ht
      obtain ⟨vs, rfl, hvs⟩ := ihl h' heq hoperator hrest
      rw [List.append_assoc, List.append_cancel_left_eq] at heq
      obtain ⟨us', vs, os', r', rfl, htail, hr', hvs⟩ := hvs.exists_joined heq ht hop hrest
      have hmore : Stops level.operands.bound more := by rwa [Level.bound_operands]
      obtain ⟨rfl, rfl⟩ := ihr.eq hr' htail hmore (hvs.stops hrest)
      exact ⟨vs, by rw [List.append_assoc, List.cons_append], hvs⟩

/-! ### Phrases inside of phrases -/

/-- **What begins behind some tokens.** A phrase `p` that begins with the tokens `front` goes on,
behind them, with a phrase `q` as a part of it. -/
inductive Ahead : Phrase → List Token → Phrase → Prop where
  | refl (p : Phrase) : Ahead p [] p
  | group {t : Token} {front : List Token} {q : Phrase} (ht : t.kind = .leftParen)
      (h : Ahead (.chain .equality) front q) : Ahead .primary (t :: front) q
  | primary {front : List Token} {q : Phrase} (h : Ahead .primary front q) : Ahead .unary front q
  | prefixed {t : Token} {op : UnaryOperator} {front : List Token} {q : Phrase}
      (ht : t.kind.unary? = some op) (h : Ahead .unary front q) : Ahead .unary (t :: front) q
  | operand {level : Level} {front : List Token} {q : Phrase} (h : Ahead level.operands front q) :
      Ahead (.chain level) front q
  | joined {level : Level} {t : Token} {op : BinaryOperator} {ts front : List Token}
      {opens : List Nat} {l : Expr} {q : Phrase} (hl : Derives (.chain level) ts opens l)
      (ht : t.kind.binary? = some op) (hop : op.level = level)
      (h : Ahead level.operands front q) : Ahead (.chain level) (ts ++ t :: front) q

/-- **Parts are subtrees.** A phrase that begins as a part of another one, where no operator
follows that binds more tightly than its own, has a node of the tree of the other one for a
tree, but for the parentheses that its span may cover. -/
theorem Ahead.exists_node {p q : Phrase} {front us ws more rest : List Token}
    {opens opens' : List Nat} {l e : Expr} (h : Ahead p front q) (hl : Derives q us opens l)
    (he : Derives p ws opens' e) (heq : front ++ (us ++ more) = ws ++ rest)
    (hmore : Stops q.innerBound more) (hrest : Stops p.bound rest) :
    ∃ s, l.withSpan s ∈ e.nodes := by
  induction h generalizing ws rest opens' e with
  | refl p =>
      obtain ⟨vs, -, hvs⟩ := hl.begins he heq hmore hrest
      exact ⟨l.span, by rw [l.withSpan_span]; exact hvs.mem_nodes l.mem_nodes_self⟩
  | @group t front q ht h ih =>
      rcases he.primary_cases with
        ⟨t, v, rfl, -, -, hv⟩ | ⟨o, c, vs, os, e', rfl, -, rfl, -, he', hc⟩
      · obtain rfl := (List.cons.inj heq).1
        rw [Token.value?, ht] at hv
        contradiction
      · rw [List.cons_append, List.cons_append, List.append_assoc] at heq
        have hnode := ih hl he' (List.cons.inj heq).2 hmore (stops_of_rightParen hc _)
        exact Expr.exists_mem_nodes_withSpan hnode _
  | @primary front q h ih =>
      rcases he.unary_cases with he | ⟨t, op, vs, os, e', rfl, -, -, ht, -⟩
      · exact ih hl he heq hmore hrest
      · -- no prefix operator begins a primary expression
        cases h with
        | refl =>
            rw [hl.unary?_of_eq heq] at ht
            contradiction
        | group ht' =>
            obtain rfl := (List.cons.inj heq).1
            rw [ht'] at ht
            contradiction
  | @prefixed t op front q ht h ih =>
      rcases he.unary_cases with he | ⟨t', op', vs, os, e', rfl, -, rfl, -, he'⟩
      · rw [he.unary?_of_eq heq.symm] at ht
        contradiction
      · obtain ⟨s, hs⟩ := ih hl he' (List.cons.inj heq).2 hmore hrest
        exact ⟨s, List.mem_cons_of_mem _ hs⟩
  | @operand level front q h ih =>
      obtain ⟨first, vs, os, l', rfl, hfirst, hvs⟩ := he.exists_extends
      rw [List.append_assoc] at heq
      obtain ⟨s, hs⟩ := ih hl hfirst heq hmore (hvs.stops hrest)
      exact ⟨s, hvs.mem_nodes hs⟩
  | @joined level t op ts front opens l' q hl' ht hop h ih =>
      rw [List.append_assoc, List.cons_append] at heq
      obtain ⟨vs, rfl, hvs⟩ := hl'.begins he heq (hop ▸ stops_of_binary ht) hrest
      rw [List.append_assoc, List.append_cancel_left_eq] at heq
      obtain ⟨us', vs, os', r', rfl, htail, hr', hvs⟩ := hvs.exists_joined heq ht hop hrest
      obtain ⟨s, hs⟩ := ih hl hr' htail hmore (hvs.stops hrest)
      exact ⟨s, hvs.mem_nodes (List.mem_cons_of_mem _ (List.mem_append_right _ hs))⟩

end Condition
