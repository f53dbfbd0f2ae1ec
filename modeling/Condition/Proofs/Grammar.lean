/-
The grammar of the language: which lists of tokens are expressions, and which
trees they have. It knows nothing of a parser, and it has no limits.

* `Phrase`: the parts that the grammar speaks of: the chains of a precedence
  level, the unary expressions and the primary ones;
* `Derives`: the grammar. Beside the tree of a phrase it gives, for each of its
  tokens, the number of parentheses and prefix operators that are open there;
* `Sentence`, `Viable`: the lists of tokens that are expressions, and those that
  are the beginning of one;
* `Derives.span_eq`: a tree covers its text from the first token to the last;
* `Derives.treeWithin`: every node of a tree is the tree of some of the tokens.
-/
import Mathlib.Tactic.Lemma
import Condition.Expr.Parse

namespace Condition

/-! ### Phrases and their trees -/

/-- A part of an expression. -/
inductive Phrase where
  /-- Operands with operators of one level between them. -/
  | chain (level : Level)
  /-- A primary expression behind any number of prefix operators. -/
  | unary
  /-- A literal, or an expression in parentheses. -/
  | primary
deriving DecidableEq, Repr

/-- The operands in a chain of the level. -/
def Level.operands (level : Level) : Phrase :=
  match level.tighter with
  | some next => .chain next
  | none => .unary

/-- **The grammar.** `Derives p ts opens e` says that the tokens `ts` are a phrase
`p` with the tree `e`, and that at each of them as many parentheses and prefix
operators are open as `opens` says. A chain grows on its right, so that its
operators associate to the left. -/
inductive Derives : Phrase → List Token → List Nat → Expr → Prop where
  /-- A literal. -/
  | literal {t : Token} {v : Value} (hv : t.value? = some v) :
      Derives .primary [t] [0] (.literal v t.span)
  /-- An expression in parentheses, which the tree of the expression covers. -/
  | group {opening closing : Token} {ts : List Token} {opens : List Nat} {e : Expr}
      (ho : opening.kind = .leftParen) (h : Derives (.chain .equality) ts opens e)
      (hc : closing.kind = .rightParen) :
      Derives .primary (opening :: (ts ++ [closing])) (1 :: (opens.map (· + 1) ++ [1]))
        (e.withSpan ⟨opening.offset, closing.span.stop⟩)
  /-- A primary expression is a unary one. -/
  | primary {ts : List Token} {opens : List Nat} {e : Expr} (h : Derives .primary ts opens e) :
      Derives .unary ts opens e
  /-- A prefix operator before a unary expression. -/
  | prefixed {t : Token} {op : UnaryOperator} {ts : List Token} {opens : List Nat} {e : Expr}
      (ht : t.kind.unary? = some op) (h : Derives .unary ts opens e) :
      Derives .unary (t :: ts) (1 :: opens.map (· + 1))
        (.prefixed op t.lexeme e ⟨t.offset, e.span.stop⟩)
  /-- An operand alone is a chain. -/
  | operand {level : Level} {ts : List Token} {opens : List Nat} {e : Expr}
      (h : Derives level.operands ts opens e) : Derives (.chain level) ts opens e
  /-- A chain, an operator of its level, and one more operand. -/
  | joined {level : Level} {t : Token} {op : BinaryOperator} {ts us : List Token}
      {opens opens' : List Nat} {l r : Expr} (hl : Derives (.chain level) ts opens l)
      (ht : t.kind.binary? = some op) (hop : op.level = level)
      (hr : Derives level.operands us opens' r) :
      Derives (.chain level) (ts ++ t :: us) (opens ++ 0 :: opens')
        (.joined op t.lexeme l r ⟨l.span.start, r.span.stop⟩)

/-- A list of tokens that is an expression. -/
def Sentence (ts : List Token) : Prop :=
  ∃ opens e, Derives (.chain .equality) ts opens e

/-- A list of tokens that is the beginning of an expression. -/
def Viable (ts : List Token) : Prop := ∃ us, Sentence (ts ++ us)

/-! ### Levels -/

/-- Tokens that spell an operator of a level are those that spell an operator, of
that level. -/
lemma TokenKind.binaryAt?_eq_some {kind : TokenKind} {level : Level} {op : BinaryOperator} :
    kind.binaryAt? level = some op ↔ kind.binary? = some op ∧ op.level = level := by
  rw [TokenKind.binaryAt?, Option.filter_eq_some_iff, decide_eq_true_iff]

/-- How tightly a phrase binds: only operators of a rank from here on can follow it
without becoming a part of it. -/
def Phrase.bound : Phrase → Nat
  | chain level => level.rank + 1
  | unary => 0
  | primary => 0

@[simp] lemma Level.bound_operands (level : Level) : level.operands.bound = level.rank := by
  cases level <;> rfl

lemma Level.rank_inj {l m : Level} (h : l.rank = m.rank) : l = m := by
  cases l <;> cases m <;> first | rfl | contradiction

/-- A unary expression is a chain of every level. -/
lemma Derives.toChain {ts : List Token} {opens : List Nat} {e : Expr} (level : Level)
    (h : Derives .unary ts opens e) : Derives (.chain level) ts opens e := by
  have hcomparison : Derives (.chain .comparison) ts opens e := .operand h
  have hxor : Derives (.chain .xor) ts opens e := .operand hcomparison
  have hconjunction : Derives (.chain .conjunction) ts opens e := .operand hxor
  have hdisjunction : Derives (.chain .disjunction) ts opens e := .operand hconjunction
  have himplication : Derives (.chain .implication) ts opens e := .operand hdisjunction
  cases level with
  | equality => exact .operand himplication
  | implication => exact himplication
  | disjunction => exact hdisjunction
  | conjunction => exact hconjunction
  | xor => exact hxor
  | comparison => exact hcomparison

/-- A unary expression is an operand of every level. -/
lemma Derives.toOperand {ts : List Token} {opens : List Nat} {e : Expr} (level : Level)
    (h : Derives .unary ts opens e) : Derives level.operands ts opens e := by
  rw [Level.operands]
  cases level.tighter with
  | none => exact h
  | some next => exact h.toChain next

/-- Every phrase is an expression. -/
lemma Derives.loosen {p : Phrase} {ts : List Token} {opens : List Nat} {e : Expr}
    (h : Derives p ts opens e) : Derives (.chain .equality) ts opens e := by
  cases p with
  | primary => exact (Derives.primary h).toChain _
  | unary => exact h.toChain _
  | chain level =>
      cases level with
      | equality => exact h
      | implication => exact .operand h
      | disjunction => exact .operand (.operand h)
      | conjunction => exact .operand (.operand (.operand h))
      | xor => exact .operand (.operand (.operand (.operand h)))
      | comparison => exact .operand (.operand (.operand (.operand (.operand h))))

/-! ### How a phrase is made up -/

/-- A chain is an operand, or it ends with an operator of its level and an operand. -/
lemma Derives.chain_cases {level : Level} {ws : List Token} {opens : List Nat} {e : Expr}
    (h : Derives (.chain level) ws opens e) :
    Derives level.operands ws opens e ∨
      ∃ t op ts us os os' l r, ws = ts ++ t :: us ∧ opens = os ++ 0 :: os' ∧
        e = .joined op t.lexeme l r ⟨l.span.start, r.span.stop⟩ ∧
        Derives (.chain level) ts os l ∧ t.kind.binary? = some op ∧ op.level = level ∧
        Derives level.operands us os' r := by
  cases h with
  | operand h => exact .inl h
  | joined hl ht hop hr => exact .inr ⟨_, _, _, _, _, _, _, _, rfl, rfl, rfl, hl, ht, hop, hr⟩

/-- A unary expression is a primary one, or it begins with a prefix operator. -/
lemma Derives.unary_cases {ws : List Token} {opens : List Nat} {e : Expr}
    (h : Derives .unary ws opens e) :
    Derives .primary ws opens e ∨
      ∃ t op ts os e', ws = t :: ts ∧ opens = 1 :: os.map (· + 1) ∧
        e = .prefixed op t.lexeme e' ⟨t.offset, e'.span.stop⟩ ∧
        t.kind.unary? = some op ∧ Derives .unary ts os e' := by
  cases h with
  | primary h => exact .inl h
  | prefixed ht h => exact .inr ⟨_, _, _, _, _, rfl, rfl, rfl, ht, h⟩

/-- A primary expression is a literal or stands in parentheses. -/
lemma Derives.primary_cases {ws : List Token} {opens : List Nat} {e : Expr}
    (h : Derives .primary ws opens e) :
    (∃ t v, ws = [t] ∧ opens = [0] ∧ e = .literal v t.span ∧ t.value? = some v) ∨
      ∃ o c ts os e', ws = o :: (ts ++ [c]) ∧ opens = 1 :: (os.map (· + 1) ++ [1]) ∧
        e = e'.withSpan ⟨o.offset, c.span.stop⟩ ∧ o.kind = .leftParen ∧
        Derives (.chain .equality) ts os e' ∧ c.kind = .rightParen := by
  cases h with
  | literal hv => exact .inl ⟨_, _, rfl, rfl, rfl, hv⟩
  | group ho h hc => exact .inr ⟨_, _, _, _, _, rfl, rfl, rfl, ho, h, hc⟩

/-! ### What a phrase consists of -/

@[simp] lemma Expr.span_prefixed (op : UnaryOperator) (symbol : String) (e : Expr) (s : Span) :
    (Expr.prefixed op symbol e s).span = s := rfl

@[simp] lemma Expr.span_joined (op : BinaryOperator) (symbol : String) (l r : Expr) (s : Span) :
    (Expr.joined op symbol l r s).span = s := rfl

@[simp] lemma Expr.depth_prefixed (op : UnaryOperator) (symbol : String) (e : Expr) (s : Span) :
    (Expr.prefixed op symbol e s).depth = 1 + e.depth := rfl

@[simp] lemma Expr.depth_joined (op : BinaryOperator) (symbol : String) (l r : Expr) (s : Span) :
    (Expr.joined op symbol l r s).depth = 1 + max l.depth r.depth := rfl

section Facts

variable {p : Phrase} {ts : List Token} {opens : List Nat} {e : Expr}

/-- No phrase is without tokens. -/
lemma Derives.tokens_ne_nil (h : Derives p ts opens e) : ts ≠ [] := by
  induction h with
  | literal | group | prefixed | joined => simp
  | primary _ ih | operand _ ih => exact ih

/-- Only the text without tokens has an empty tree. -/
lemma Derives.not_isEmpty (h : Derives p ts opens e) : e.isEmpty = false := by
  induction h with
  | literal | prefixed | joined => rfl
  | @group _ _ _ _ e _ _ _ ih => cases e <;> simp_all [Expr.withSpan, Expr.isEmpty]
  | primary _ ih | operand _ ih => exact ih

/-- **The span of a tree**: from the first byte of the first token to the last byte
of the last one. -/
lemma Derives.span_eq (h : Derives p ts opens e) (hne : ts ≠ []) :
    e.span = ⟨(ts.head hne).offset, (ts.getLast hne).span.stop⟩ := by
  induction h with
  | literal => rfl
  | group =>
      rw [Expr.span_withSpan, List.head_cons]
      simp only [← List.cons_append, List.getLast_concat]
  | primary _ ih | operand _ ih => exact ih hne
  | prefixed _ h ih =>
      rw [Expr.span_prefixed, ih h.tokens_ne_nil, List.head_cons, List.getLast_cons h.tokens_ne_nil]
  | joined hl _ _ hr ihl ihr =>
      rw [Expr.span_joined, ihl hl.tokens_ne_nil, ihr hr.tokens_ne_nil,
        List.head_append_of_ne_nil hl.tokens_ne_nil,
        List.getLast_append_of_ne_nil _ (List.cons_ne_nil _ _), List.getLast_cons hr.tokens_ne_nil]

end Facts

/-! ### Subtrees -/

lemma Expr.mem_nodes_self (e : Expr) : e ∈ e.nodes := by
  cases e <;> simp [Expr.nodes]

/-- Another span at the root leaves the nodes below it as they are. -/
lemma Expr.mem_nodes_withSpan {e n : Expr} {s : Span} (h : n ∈ (e.withSpan s).nodes) :
    n = e.withSpan s ∨ n ∈ e.nodes := by
  cases e with
  | empty | literal => exact .inl (by simpa [Expr.withSpan, Expr.nodes] using h)
  | unary | binary =>
      rcases List.mem_cons.mp h with h | h
      · exact .inl h
      · exact .inr (List.mem_cons_of_mem _ h)

lemma Expr.withSpan_span (e : Expr) : e.withSpan e.span = e := by
  cases e <;> rfl

lemma Expr.withSpan_withSpan (e : Expr) (s s' : Span) :
    (e.withSpan s).withSpan s' = e.withSpan s' := by
  cases e <;> rfl

/-- A node is a node under another span at the root, but for its own span if it is the root. -/
lemma Expr.exists_mem_nodes_withSpan {e n : Expr} (h : ∃ s, n.withSpan s ∈ e.nodes) (s' : Span) :
    ∃ s, n.withSpan s ∈ (e.withSpan s').nodes := by
  obtain ⟨s, hs⟩ := h
  by_cases hroot : n.withSpan s = e
  · refine ⟨s', ?_⟩
    rw [← hroot, withSpan_withSpan]
    exact mem_nodes_self _
  · refine ⟨s, ?_⟩
    cases e with
    | empty | literal => exact absurd (List.mem_singleton.mp hs) hroot
    | unary | binary => exact List.mem_cons_of_mem _ ((List.mem_cons.mp hs).resolve_left hroot)

/-- The tree `n` belongs to some of the tokens `ts`, read as an expression of their
own, with no more open in it than `opens` and no deeper than `depth`. -/
def TreeWithin (ts : List Token) (opens : List Nat) (depth : Nat) (n : Expr) : Prop :=
  ∃ front us back opens', ts = front ++ us ++ back ∧ Derives (.chain .equality) us opens' n ∧
    (∀ k ∈ opens', ∃ m ∈ opens, k ≤ m) ∧ n.depth ≤ depth

/-- What is within a part is within the whole. -/
lemma TreeWithin.mono {ts ts' : List Token} {opens opens' : List Nat} {d d' : Nat} {n : Expr}
    (h : TreeWithin ts opens d n) (front back : List Token) (hts : ts' = front ++ ts ++ back)
    (hopens : ∀ k ∈ opens, ∃ m ∈ opens', k ≤ m) (hd : d ≤ d') : TreeWithin ts' opens' d' n := by
  obtain ⟨front', us, back', opens'', rfl, hus, hle, hn⟩ := h
  refine ⟨front ++ front', us, back' ++ back, opens'', by simp [hts], hus, ?_, by omega⟩
  intro k hk
  obtain ⟨m, hm, hkm⟩ := hle k hk
  obtain ⟨m', hm', hmm⟩ := hopens m hm
  exact ⟨m', hm', by omega⟩

/-- The tree of a phrase is within its tokens. -/
lemma Derives.treeWithin_self {p : Phrase} {ts : List Token} {opens : List Nat} {e : Expr}
    (h : Derives p ts opens e) : TreeWithin ts opens e.depth e :=
  ⟨[], ts, [], opens, by simp, h.loosen, fun k hk => ⟨k, hk, Nat.le_refl k⟩, Nat.le_refl _⟩

/-- **Subtrees are trees**: every node of the tree of a phrase is itself the tree of
some of the tokens. -/
lemma Derives.treeWithin {p : Phrase} {ts : List Token} {opens : List Nat} {e n : Expr}
    (h : Derives p ts opens e) (hn : n ∈ e.nodes) : TreeWithin ts opens e.depth n := by
  have hsucc : ∀ opens : List Nat, ∀ k ∈ opens, ∃ m ∈ opens.map (· + 1), k ≤ m :=
    fun opens k hk => ⟨k + 1, List.mem_map_of_mem hk, Nat.le_succ k⟩
  induction h with
  | literal hv =>
      rw [Expr.nodes, List.mem_singleton] at hn
      subst hn
      exact (Derives.literal hv).treeWithin_self
  | @group opening closing ts opens e ho h hc ih =>
      rcases Expr.mem_nodes_withSpan hn with rfl | hn
      · exact (Derives.group ho h hc).treeWithin_self
      · refine (ih hn).mono [opening] [closing] (by simp) ?_ (by simp)
        intro k hk
        obtain ⟨m, hm, hkm⟩ := hsucc opens k hk
        exact ⟨m, by simp_all, hkm⟩
  | primary _ ih | operand _ ih => exact ih hn
  | @prefixed t op ts opens e ht h ih =>
      rcases List.mem_cons.mp hn with rfl | hn
      · exact (Derives.prefixed ht h).treeWithin_self
      · refine (ih hn).mono [t] [] (by simp) ?_ (by simp)
        intro k hk
        obtain ⟨m, hm, hkm⟩ := hsucc opens k hk
        exact ⟨m, List.mem_cons_of_mem _ hm, hkm⟩
  | @joined level t op ts us opens opens' l r hl ht hop hr ihl ihr =>
      rcases List.mem_cons.mp hn with rfl | hn
      · exact (Derives.joined hl ht hop hr).treeWithin_self
      rcases List.mem_append.mp hn with hn | hn
      · exact (ihl hn).mono [] (t :: us) (by simp)
          (fun k hk => ⟨k, by simp [hk], Nat.le_refl k⟩) (by simp; omega)
      · exact (ihr hn).mono (ts ++ [t]) [] (by simp)
          (fun k hk => ⟨k, by simp [hk], Nat.le_refl k⟩) (by simp; omega)

end Condition
