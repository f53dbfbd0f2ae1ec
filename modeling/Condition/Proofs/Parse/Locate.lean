/-
Where the parser reports a fault: at the first token that makes the tokens
hopeless, and at their end if they are only incomplete.

* `TokenKind.endsOperand`: the kinds of token that complete an operand;
  `endsOperand_of_run` reads off the last token whether an operand is wanted;
* `not_viable_of_step`: a token that cannot be read is one too many;
* `parseTokens_error_located`: every fault of the grammar stands where the tokens
  stop to be the beginning of an expression, or at the end of such a beginning.
-/
import Condition.Proofs.Parse.Limit

namespace Condition

open Reading

/-! ### The last token -/

/-- Whether a token of this kind completes an operand: a literal or a closing
parenthesis. After every other token an operand is wanted. -/
def TokenKind.endsOperand : TokenKind → Bool
  | stringLiteral | numberLiteral | falseLiteral | trueLiteral | rightParen => true
  | _ => false

lemma endsOperand_of_step {r : Reading} {t : Token} {d : Nat} :
    (r.step t = some (wanted d) → t.kind.endsOperand = false) ∧
      (r.step t = some (complete d) → t.kind.endsOperand = true) := by
  cases r with
  | wanted d' =>
      rw [step_wanted, step_wanted]
      cases hk : t.kind <;>
        simp [TokenKind.endsOperand, Token.value?, TokenKind.unary?, hk]
  | complete d' =>
      rw [step_complete, step_complete]
      cases hk : t.kind <;> simp [TokenKind.endsOperand, TokenKind.binary?]

/-- **The last token** shows whether an operand is wanted behind it. -/
lemma endsOperand_of_run {ts : List Token} (hne : ts ≠ []) {r : Reading} {d : Nat} :
    (r.run ts = some (wanted d) → (ts.getLast hne).kind.endsOperand = false) ∧
      (r.run ts = some (complete d) → (ts.getLast hne).kind.endsOperand = true) := by
  have hstep : ∀ {r'}, r.run ts = some r' → ∃ s : Reading, s.step (ts.getLast hne) = some r' := by
    intro r' h
    rw [← List.dropLast_concat_getLast hne] at h
    obtain ⟨s, -, hs⟩ := run_append_eq_some.mp h
    rw [run_cons, Option.bind_eq_some_iff] at hs
    obtain ⟨r'', hr'', hnil⟩ := hs
    exact ⟨s, by rw [hr'', ← hnil, run_nil]⟩
  constructor
  · intro h
    obtain ⟨s, hs⟩ := hstep h
    exact endsOperand_of_step.1 hs
  · intro h
    obtain ⟨s, hs⟩ := hstep h
    exact endsOperand_of_step.2 hs

/-- Behind some tokens it is the last of them after which something is missing. -/
lemma missing_eq (source : List Char) {ts passed : List Token} {n : Nat} (hne : ts ≠ []) :
    Cursor.missing source ⟨ts.reverse ++ passed, [], n⟩ =
      .unexpected (ts.getLast hne) .backward := by
  have hreverse : ts.reverse = ts.getLast hne :: ts.dropLast.reverse := by
    rw [← List.reverse_concat, List.dropLast_concat_getLast hne]
  rw [hreverse]
  rfl

/-! ### Hopeless and incomplete tokens -/

/-- A token that cannot be read is one too many. -/
lemma not_viable_of_step {ts : List Token} {t : Token} {r : Reading}
    (hr : (wanted 0).run ts = some r) (ht : r.step t = none) : ¬ Viable (ts ++ [t]) := by
  rw [viable_iff_run, run_stuck hr ht []]
  nofun

/-- All that comes before a place that was read is the beginning of an expression. -/
lemma Viable.of_run {front ts : List Token} {r : Reading} (hr : (wanted 0).run ts = some r)
    (h : front <+: ts) : Viable front := by
  obtain ⟨back, rfl⟩ := h
  exact Viable.of_append back (viable_iff_run.mpr ⟨r, hr⟩)

/-- **Parse errors are located exactly.** If the parser finds a fault of the grammar,
the tokens are no expression. If they do not even begin one, the fault is the token
with which they stop to, looked at from before it. Otherwise they only end too
early: after a literal or a closing parenthesis it is a parenthesis that is open,
and after any other token an operand that is missing. -/
theorem parseTokens_error_located (source : List Char) (ts : List Token) (hne : ts ≠ [])
    (f : Fault) (hf : parseTokens source ts = .error f) (hkind : f.diagnostic.kind = .parse) :
    ¬ Sentence ts ∧
      ((∃ front, front <+: ts ∧ ¬ Viable front) →
        ∃ k, ∃ hk : k < ts.length, ¬ Viable (ts.take (k + 1)) ∧
          (∀ j < k, Viable (ts.take (j + 1))) ∧ f = .unexpected ts[k] .forward) ∧
      ((∀ front, front <+: ts → Viable front) →
        Viable ts ∧
          ((ts.getLast hne).kind.endsOperand = true →
            f = .unclosed (Text.unclosedParen source)) ∧
          ((ts.getLast hne).kind.endsOperand = false →
            f = .unexpected (ts.getLast hne) .backward)) := by
  obtain ⟨opens, e, heq, -⟩ | ⟨f', heq, hblames⟩ := parseTokens_answer source hne
  · rw [hf] at heq
    contradiction
  rw [hf, Except.error.injEq] at heq
  subst heq
  refine ⟨fun h => hblames.run_ne hkind (sentence_iff_run.mp h), ?_⟩
  cases hblames with
  | tooDeep => simp [Fault.diagnostic] at hkind
  | unexpected hr ht =>
      rename_i r front back t
      have hdead := not_viable_of_step hr ht
      have hfront : front ++ [t] <+: front ++ t :: back := ⟨back, by simp⟩
      refine ⟨fun _ => ⟨front.length, by simp, ?_, ?_, by simp⟩,
        fun h => absurd (h _ hfront) hdead⟩
      · rwa [List.take_append, List.take_of_length_le (by omega), Nat.add_sub_cancel_left,
          List.take_succ_cons, List.take_zero]
      · intro j hj
        rw [List.take_append_of_le_length (by omega)]
        exact .of_run hr (List.take_prefix _ _)
  | missing hr =>
      have hlast := (endsOperand_of_run hne).1 hr
      refine ⟨fun ⟨front, hfront, hdead⟩ => absurd (.of_run hr hfront) hdead,
        fun _ => ⟨.of_run hr (List.prefix_refl _), fun h => ?_, fun _ => missing_eq source hne⟩⟩
      rw [hlast] at h
      contradiction
  | unclosed hr =>
      have hlast := (endsOperand_of_run hne).2 hr
      refine ⟨fun ⟨front, hfront, hdead⟩ => absurd (.of_run hr hfront) hdead,
        fun _ => ⟨.of_run hr (List.prefix_refl _), fun _ => rfl, fun h => ?_⟩⟩
      rw [hlast] at h
      contradiction

/-- The theorem at `true false`, whose last token cannot follow an operand. -/
theorem parseTokens_second_operand :
    [⟨"true", .trueLiteral, 0⟩, ⟨"false", .falseLiteral, 5⟩] ≠ ([] : List Token) ∧
      parseTokens "true false".toList [⟨"true", .trueLiteral, 0⟩, ⟨"false", .falseLiteral, 5⟩] =
        .error (.unexpected ⟨"false", .falseLiteral, 5⟩ .forward) ∧
      ¬ Sentence [⟨"true", .trueLiteral, 0⟩, ⟨"false", .falseLiteral, 5⟩] := by
  have hread : (wanted 0).run [⟨"true", .trueLiteral, 0⟩] = some (complete 0) := rfl
  have herror : parseTokens "true false".toList
      [⟨"true", .trueLiteral, 0⟩, ⟨"false", .falseLiteral, 5⟩] =
        .error (.unexpected ⟨"false", .falseLiteral, 5⟩ .forward) :=
    (parseTokens_eq_error_iff (List.cons_ne_nil _ _) (by decide)).mpr
      ⟨.unexpected hread rfl, rfl⟩
  exact ⟨List.cons_ne_nil _ _, herror,
    (parseTokens_error_located _ _ (List.cons_ne_nil _ _) _ herror rfl).1⟩

end Condition
