/-
The grammar is unambiguous: an expression has one tree.

* `Derives.rank_lt`: outside of all parentheses a phrase has only operators that
  bind as tightly as the phrase does;
* `Derives.unique`: the tokens of a phrase determine its tree, and how many
  parentheses and prefix operators are open at each of them.
-/
import Condition.Proofs.Grammar.Reading

namespace Condition

open Reading

/-- The two ways in which one list can be cut at two tokens: at the same one, or one
cut is inside of a part of the other. -/
lemma append_cons_eq_cases {ts us ts' us' : List Token} {t t' : Token}
    (h : ts ++ t :: us = ts' ++ t' :: us') :
    (ts = ts' ∧ t = t' ∧ us = us') ∨ (∃ a, ts' = ts ++ t :: a ∧ us = a ++ t' :: us') ∨
      ∃ a, ts = ts' ++ t' :: a ∧ us' = a ++ t :: us := by
  rcases List.append_eq_append_iff.mp h with ⟨a, rfl, ha⟩ | ⟨a, rfl, ha⟩ <;> cases a with
  | nil =>
      obtain ⟨rfl, rfl⟩ := List.cons.inj ha
      exact .inl ⟨by simp, rfl, rfl⟩
  | cons x a =>
      obtain ⟨rfl, rfl⟩ := List.cons.inj ha
      first
        | exact .inr (.inl ⟨a, rfl, rfl⟩)
        | exact .inr (.inr ⟨a, rfl, rfl⟩)

/-- **Operators outside of parentheses**: where the tokens before an operator of a
phrase are an operand, the operator binds as tightly as the phrase. -/
lemma Derives.rank_lt {p : Phrase} {ws ts us : List Token} {opens : List Nat} {e : Expr}
    {t : Token} {op : BinaryOperator} (h : Derives p ws opens e) (hws : ws = ts ++ t :: us)
    (hts : (wanted 0).run ts = some (complete 0)) (ht : t.kind.binary? = some op) :
    op.level.rank < p.bound := by
  induction h generalizing ts us with
  | literal => cases ts <;> simp_all
  | @group opening closing inner opens e ho h hc =>
      cases ts with
      | nil => simp at hts
      | cons first ts =>
          obtain ⟨rfl, htail⟩ := List.cons.inj hws
          rw [run_cons, step_of_leftParen ho, Option.bind_some] at hts
          -- the tokens before the operator end inside of the parentheses
          obtain ⟨back, rfl⟩ : ∃ back, inner = ts ++ back := by
            rcases append_cons_eq_cases htail with ⟨rfl, -⟩ | ⟨a, -, ha⟩ | ⟨a, rfl, -⟩
            · exact ⟨[], by simp⟩
            · simp at ha
            · exact ⟨_, rfl⟩
          obtain ⟨r, hr, _⟩ := run_append_eq_some.mp (h.run 0)
          have hdeep := run_deeper hr 1
          rw [deeper, hts] at hdeep
          cases r <;> simp [deeper] at hdeep
  | primary _ ih => exact ih hws hts
  | operand _ ih =>
      have := ih hws hts
      rw [Level.bound_operands] at this
      exact Nat.lt_succ_of_lt this
  | prefixed ht' _ ih =>
      cases ts with
      | nil => simp at hts
      | cons first ts =>
          obtain ⟨rfl, htail⟩ := List.cons.inj hws
          rw [run_cons, step_of_unary ht', Option.bind_some] at hts
          exact ih htail hts
  | joined hl ht' hop hr ihl ihr =>
      rcases append_cons_eq_cases hws with ⟨-, rfl, -⟩ | ⟨a, rfl, ha⟩ | ⟨a, rfl, -⟩
      · rw [ht', Option.some.injEq] at ht
        rw [← ht, hop]
        exact Nat.lt_succ_self _
      · rw [run_append, hl.run, Option.bind_some, run_cons, step_of_binary ht',
          Option.bind_some] at hts
        have := ihr ha hts
        rw [Level.bound_operands] at this
        exact Nat.lt_succ_of_lt this
      · exact ihl rfl hts

/-- The operands of a level hold no operator of the level outside of parentheses. -/
lemma Derives.operand_ne {level : Level} {ts us : List Token} {opens : List Nat} {e : Expr}
    {t : Token} {op : BinaryOperator} (h : Derives level.operands (ts ++ t :: us) opens e)
    (hts : (wanted 0).run ts = some (complete 0)) (ht : t.kind.binary? = some op) :
    op.level ≠ level := by
  rintro rfl
  have := h.rank_lt rfl hts ht
  rw [Level.bound_operands] at this
  exact Nat.lt_irrefl _ this

/-- What stands between two operators outside of parentheses is an operand. -/
lemma run_between {ts us : List Token} {t : Token} {op : BinaryOperator}
    (hts : (wanted 0).run ts = some (complete 0)) (ht : t.kind.binary? = some op)
    (h : (wanted 0).run (ts ++ t :: us) = some (complete 0)) :
    (wanted 0).run us = some (complete 0) := by
  rwa [run_append, hts, Option.bind_some, run_cons, step_of_binary ht, Option.bind_some] at h

/-- No prefix operator begins a primary expression. -/
lemma Derives.unary?_head {t : Token} {ts : List Token} {opens : List Nat} {e : Expr}
    (h : Derives .primary (t :: ts) opens e) : t.kind.unary? = none := by
  rcases h.primary_cases with ⟨t', v, hws, -, -, hv⟩ | ⟨o, c, _, _, _, hws, -, -, ho, -⟩
  · obtain rfl := (List.cons.inj hws).1
    cases hk : t.kind <;> simp_all [TokenKind.unary?, Token.value?]
  · obtain rfl := (List.cons.inj hws).1
    rw [ho]
    rfl

/-- **The grammar is unambiguous**: one list of tokens has one tree as one phrase. -/
theorem Derives.unique {p : Phrase} {ws : List Token} {opens opens' : List Nat} {e e' : Expr}
    (h : Derives p ws opens e) (h' : Derives p ws opens' e') : opens = opens' ∧ e = e' := by
  induction h generalizing opens' e' with
  | literal hv =>
      rcases h'.primary_cases with ⟨t, v, hws, rfl, rfl, hv'⟩ | ⟨o, c, ts, os, e, hws, -⟩
      · obtain rfl := (List.cons.inj hws).1
        rw [hv, Option.some.injEq] at hv'
        exact ⟨rfl, by rw [hv']⟩
      · simp at hws
  | group ho h hc ih =>
      rcases h'.primary_cases with ⟨t, v, hws, -⟩ | ⟨o, c, ts, os, e, hws, rfl, rfl, -, he, -⟩
      · simp at hws
      · obtain ⟨rfl, htail⟩ := List.cons.inj hws
        obtain ⟨rfl, hclosing⟩ := List.append_inj' htail rfl
        obtain rfl := (List.cons.inj hclosing).1
        obtain ⟨rfl, rfl⟩ := ih he
        exact ⟨rfl, rfl⟩
  | primary h ih =>
      rcases h'.unary_cases with h' | ⟨t, op, ts, os, e, rfl, -, -, ht, -⟩
      · exact ih h'
      · rw [h.unary?_head] at ht
        contradiction
  | prefixed ht h ih =>
      rcases h'.unary_cases with h' | ⟨t, op, ts, os, e, hws, rfl, rfl, ht', he⟩
      · rw [h'.unary?_head] at ht
        contradiction
      · obtain ⟨rfl, rfl⟩ := List.cons.inj hws
        obtain ⟨rfl, rfl⟩ := ih he
        rw [ht, Option.some.injEq] at ht'
        exact ⟨rfl, by rw [ht']⟩
  | operand h ih =>
      rcases h'.chain_cases with h' | ⟨t, op, ts, us, _, _, _, _, rfl, -, -, hl, ht, hop, -⟩
      · exact ih h'
      · exact absurd hop (h.operand_ne (hl.run 0) ht)
  | joined hl ht hop hr ihl ihr =>
      rcases h'.chain_cases with
        h' | ⟨t, op, ts, us, _, _, _, _, hws, rfl, rfl, hl', ht', hop', hr'⟩
      · exact absurd hop (h'.operand_ne (hl.run 0) ht)
      rcases append_cons_eq_cases hws with ⟨rfl, rfl, rfl⟩ | ⟨a, rfl, rfl⟩ | ⟨a, rfl, rfl⟩
      · obtain ⟨rfl, rfl⟩ := ihl hl'
        obtain ⟨rfl, rfl⟩ := ihr hr'
        rw [ht, Option.some.injEq] at ht'
        exact ⟨rfl, by rw [ht']⟩
      · exact absurd hop' (hr.operand_ne (run_between (hl.run 0) ht (hl'.run 0)) ht')
      · exact absurd hop (hr'.operand_ne (run_between (hl'.run 0) ht' (hl.run 0)) ht)

end Condition
