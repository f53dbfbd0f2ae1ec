/-
Which lists of tokens are expressions, and which are the beginning of one, told
by reading them once from left to right.

* `Derives.extend`: a phrase with an operator and an operand after it is a phrase,
  if the operator binds as tightly as the phrase;
* `sentence_iff_run`: tokens are an expression if and only if they read as one
  operand;
* `viable_iff_run`: tokens are the beginning of an expression if and only if they
  can be read at all.
-/
import Condition.Proofs.Grammar.Unique

namespace Condition

open Reading

/-! ### From operands to expressions -/

/-- An operator that a chain may take, but not between its own operands, goes with one of
these. -/
lemma Level.rank_lt_operands {l level : Level} (h : l.rank < (Phrase.chain level).bound)
    (hne : l ≠ level) : l.rank < level.operands.bound := by
  have hrank : l.rank ≠ level.rank := fun heq => hne (Level.rank_inj heq)
  rw [Phrase.bound] at h
  rw [Level.bound_operands]
  omega

/-- **A phrase grows on its right.** An operator that binds as tightly as the phrase
takes its place among the operators of the phrase, and the operand after it goes
with the operators that bind more tightly than the operators before them. -/
lemma Derives.extend {p : Phrase} {ts us : List Token} {opens opens' : List Nat} {e r : Expr}
    {t : Token} {op : BinaryOperator} (h : Derives p ts opens e) (ht : t.kind.binary? = some op)
    (hop : op.level.rank < p.bound) (hr : Derives .unary us opens' r) :
    ∃ opens'' e', Derives p (ts ++ t :: us) opens'' e' := by
  induction h with
  | literal | group | primary | prefixed => exact absurd hop (Nat.not_lt_zero _)
  | @operand level ts opens e h ih =>
      by_cases hlevel : op.level = level
      · exact ⟨_, _, .joined (.operand h) ht hlevel (hr.toOperand level)⟩
      · obtain ⟨opens'', e', h'⟩ := ih (Level.rank_lt_operands hop hlevel)
        exact ⟨_, _, .operand h'⟩
  | @joined level t' op' ts' us' opens opens' l r' hl ht' hop' hr' ihl ihr =>
      by_cases hlevel : op.level = level
      · exact ⟨_, _, .joined (.joined hl ht' hop' hr') ht hlevel (hr.toOperand level)⟩
      · obtain ⟨opens'', e', h'⟩ := ihr (Level.rank_lt_operands hop hlevel)
        rw [List.append_assoc, List.cons_append]
        exact ⟨_, _, .joined hl ht' hop' h'⟩

/-- Tokens that read as one operand begin with a unary expression, as soon as all
shorter ones are expressions. -/
lemma exists_unary {n : Nat} (hn : ∀ ts : List Token, ts.length < n →
      (wanted 0).run ts = some (complete 0) → Sentence ts)
    {ts : List Token} (hlen : ts.length ≤ n) (h : (wanted 0).run ts = some (complete 0)) :
    ∃ us back opens e, ts = us ++ back ∧ Derives .unary us opens e ∧
      (complete 0).run back = some (complete 0) := by
  induction ts with
  | nil => simp at h
  | cons t ts ih =>
      rw [run_cons, Option.bind_eq_some_iff] at h
      obtain ⟨r, hr, h⟩ := h
      rw [List.length_cons] at hlen
      rcases step_wanted.mp hr with ⟨ht, rfl⟩ | ⟨ht, rfl⟩ | ⟨ht, rfl⟩
      · obtain ⟨inner, closing, back, rfl, hinner, hclosing, hback⟩ := run_leaves (r := wanted 0) h
        rw [List.length_append] at hlen
        obtain ⟨opens, e, he⟩ := hn inner (by omega) hinner
        exact ⟨t :: (inner ++ [closing]), back, _, _, by simp,
          .primary (.group ht he hclosing), hback⟩
      · obtain ⟨us, back, opens, e, rfl, hus, hback⟩ := ih (by omega) h
        obtain ⟨op, hop⟩ := Option.isSome_iff_exists.mp ht
        exact ⟨t :: us, back, _, _, rfl, .prefixed hop hus, hback⟩
      · obtain ⟨v, hv⟩ := Option.isSome_iff_exists.mp ht
        exact ⟨[t], ts, _, _, rfl, .primary (.literal hv), h⟩

/-- An expression with operators and operands after it is an expression. -/
lemma sentence_append {n : Nat} (hn : ∀ ts : List Token, ts.length < n →
      (wanted 0).run ts = some (complete 0) → Sentence ts) (m : Nat)
    {ts back : List Token} (hm : back.length ≤ m) (hlen : back.length ≤ n) (hts : Sentence ts)
    (h : (complete 0).run back = some (complete 0)) : Sentence (ts ++ back) := by
  induction m generalizing ts back with
  | zero =>
      rw [List.length_eq_zero_iff.mp (Nat.le_zero.mp hm), List.append_nil]
      exact hts
  | succ m ih =>
      cases back with
      | nil => rwa [List.append_nil]
      | cons t back =>
          rw [run_cons, Option.bind_eq_some_iff] at h
          obtain ⟨r, hr, h⟩ := h
          rw [List.length_cons] at hm hlen
          rcases step_complete.mp hr with ⟨ht, rfl⟩ | ⟨_, k, hk, _⟩
          · obtain ⟨us, back, opens', e', rfl, hus, hback⟩ := exists_unary hn (by omega) h
            obtain ⟨op, hop⟩ := Option.isSome_iff_exists.mp ht
            obtain ⟨opens, e, he⟩ := hts
            have hlong : Sentence (ts ++ t :: us) :=
              he.extend hop (by cases op <;> decide) hus
            rw [List.length_append] at hm hlen
            have := ih (by omega) (by omega) hlong hback
            rwa [List.append_assoc, List.cons_append] at this
          · omega

/-- **Expressions are what reads as one operand.** -/
lemma sentence_iff_run {ts : List Token} :
    Sentence ts ↔ (wanted 0).run ts = some (complete 0) := by
  constructor
  · rintro ⟨opens, e, h⟩
    exact h.run 0
  · induction hn : ts.length using Nat.strongRecOn generalizing ts with
    | _ n ih =>
      intro h
      have hshort : ∀ us : List Token, us.length < n →
          (wanted 0).run us = some (complete 0) → Sentence us :=
        fun us hus => ih us.length hus rfl
      obtain ⟨us, back, opens, e, rfl, hus, hback⟩ := exists_unary hshort (Nat.le_of_eq hn) h
      refine sentence_append hshort back.length (Nat.le_refl _) ?_ ⟨opens, e, hus.loosen⟩ hback
      rw [← hn, List.length_append]
      omega

/-! ### Beginnings of expressions -/

/-- The tokens `)` that close `depth` parentheses. -/
def closings (depth : Nat) : List Token := List.replicate depth ⟨")", .rightParen, 0⟩

lemma run_closings (depth : Nat) : (complete depth).run (closings depth) = some (complete 0) := by
  induction depth with
  | zero => rfl
  | succ depth ih =>
      rw [closings, List.replicate_succ, run_cons, step_of_rightParen rfl, Option.bind_some]
      exact ih

/-- **Beginnings of expressions are what can be read**: an operand that is wanted can
be given, and then what is open can be closed. -/
lemma viable_iff_run {ts : List Token} : Viable ts ↔ ∃ r, (wanted 0).run ts = some r := by
  constructor
  · rintro ⟨us, h⟩
    obtain ⟨r, hr, -⟩ := run_append_eq_some.mp (sentence_iff_run.mp h)
    exact ⟨r, hr⟩
  · rintro ⟨r, hr⟩
    cases r with
    | wanted d =>
        refine ⟨⟨"true", .trueLiteral, 0⟩ :: closings d, sentence_iff_run.mpr ?_⟩
        rw [run_append, hr, Option.bind_some, run_cons, step_of_value (v := .boolean true) rfl,
          Option.bind_some, run_closings]
    | complete d =>
        refine ⟨closings d, sentence_iff_run.mpr ?_⟩
        rw [run_append, hr, Option.bind_some, run_closings]

/-- What is not the beginning of an expression does not become one. -/
lemma Viable.of_append {ts : List Token} (us : List Token) (h : Viable (ts ++ us)) :
    Viable ts := by
  obtain ⟨vs, h⟩ := h
  exact ⟨us ++ vs, by rwa [← List.append_assoc]⟩

end Condition
