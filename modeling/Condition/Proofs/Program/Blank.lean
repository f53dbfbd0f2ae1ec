/-
Blank texts are the only ones without a value.

* `Blank`: the texts without tokens, which are those of the blank expression
  (`parse_of_blank`, `blank_of_isEmpty`);
* `Ends.type_error`, `parse_error_kind`: what kinds of failures there are;
* `evaluate_eq_none_iff`: a text has no value if and only if it is blank, and no operand of
  a parsed text ever lacks one.
-/
import Condition.Proofs.Program.Place

namespace Condition

/-! ### Texts without tokens -/

/-- A text of skipped characters only. -/
def Blank (source : String) : Prop := ∀ c ∈ source.toList, isSkipped c = true

/-- A blank text is the blank expression. -/
lemma parse_of_blank {source : String} (h : Blank source) : parse source = .ok .blank := by
  rw [parse_of_tokens (tokens_eq_ok_iff.mpr (Tiled.nil_iff.mpr h)), parseTokens, if_pos rfl]
  rfl

/-- Only a blank text is an empty expression. -/
lemma blank_of_isEmpty {source : String} {e : Expr} (h : parse source = .ok e)
    (hempty : e.isEmpty = true) : Blank source := by
  cases htokens : tokens source with
  | error failure =>
      rw [parse, htokens] at h
      cases h
  | ok ts =>
      by_cases hts : ts = []
      · subst hts
        exact Tiled.nil_iff.mp (tokens_eq_ok_iff.mp htokens)
      · rw [parse_of_tokens htokens] at h
        rcases parseTokens_answer source.toList hts with ⟨opens, e', heq, hderives, -⟩ | ⟨f, heq, -⟩
        · rw [heq] at h
          obtain rfl := Except.ok.inj h
          exact absurd hderives.not_isEmpty (by simp [hempty])
        · rw [heq] at h
          cases h

/-! ### Kinds of failures -/

/-- **A computation that checks** fails for a type only. -/
lemma Ends.type_error {α : Type} {P : α → Prop} {ks : List Check} {x : Except Failure α}
    (h : Ends P ks x) :
    (∃ a, x = .ok a) ∨ ∃ f, x = .error (.fault f) ∧ f.diagnostic.kind = .type := by
  cases h with
  | value => exact .inl ⟨_, rfl⟩
  | failed => exact .inr ⟨_, rfl, rfl⟩

/-- **A text without a tree** does not lack a value. -/
lemma parse_error_kind {source : String} {failure : Failure} (h : parse source = .error failure) :
    ∃ f, failure = .fault f ∧ f.diagnostic.kind ≠ .missingValue := by
  rcases parse_eq_error h with ⟨_, _, _, -, rfl⟩ | ⟨ts, f, -, -, -, hblames, rfl⟩
  · exact ⟨_, rfl, by simp [Fault.diagnostic]⟩
  · refine ⟨f, rfl, ?_⟩
    rcases hblames.kind_cases with hkind | ⟨t, limit, rfl⟩
    · simp [hkind]
    · simp [Fault.diagnostic]

/-- **A text with a tree** that is not blank has no blank node in it, and it has a value or an
operand of the wrong type. -/
lemma evaluate_of_not_blank {source : String} {e : Expr} (h : parse source = .ok e)
    (hsource : ¬Blank source) :
    (∀ n ∈ e.nodes, n.isEmpty = false) ∧
      ((∃ v, evaluate source = .ok (some v)) ∨
        ∃ f, evaluate source = .error (.fault f) ∧ f.diagnostic.kind = .type) := by
  have hne : e.isEmpty = false :=
    Bool.eq_false_iff.mpr fun hempty => hsource (blank_of_isEmpty h hempty)
  have hfull : ∀ n ∈ e.nodes, n.isEmpty = false := fun n hn => (parse_span_within h hne hn).2
  refine ⟨hfull, ?_⟩
  rw [evaluate_of_parse h, Expr.evaluate_eq_map_outcome hne]
  rcases (Expr.ends_outcome hfull).type_error with ⟨v, heq⟩ | ⟨f, heq, hkind⟩
  · exact .inl ⟨v, by rw [heq]; rfl⟩
  · exact .inr ⟨f, by rw [heq]; rfl, hkind⟩

/-- A text that is not blank has a value, or a failure that is no lack of one. -/
lemma evaluate_cases {source : String} (hsource : ¬Blank source) :
    (∃ v, evaluate source = .ok (some v)) ∨
      ∃ f, evaluate source = .error (.fault f) ∧ f.diagnostic.kind ≠ .missingValue := by
  cases hparse : parse source with
  | error failure =>
      obtain ⟨f, rfl, hkind⟩ := parse_error_kind hparse
      exact .inr ⟨f, evaluate_of_parse_error hparse, hkind⟩
  | ok e =>
      rcases (evaluate_of_not_blank hparse hsource).2 with hvalue | ⟨f, hfault, hkind⟩
      · exact .inl hvalue
      · exact .inr ⟨f, hfault, by simp [hkind]⟩

/-! ### Source texts -/

/-- **Blank texts and only these have no value.** A text has no value if and only if all its
characters are skipped. No node of the tree of any other text is blank, so that the text has
a value or an operand of the wrong type, and no failure of any text is that an operand has no
value. -/
theorem evaluate_eq_none_iff (source : String) :
    (evaluate source = .ok none ↔ Blank source) ∧
      (∀ e, parse source = .ok e → ¬Blank source →
        (∀ n ∈ e.nodes, n.isEmpty = false) ∧
          ((∃ v, evaluate source = .ok (some v)) ∨
            ∃ f, evaluate source = .error (.fault f) ∧ f.diagnostic.kind = .type)) ∧
      ∀ failure, evaluate source = .error failure →
        ∃ f, failure = .fault f ∧ f.diagnostic.kind ≠ .missingValue := by
  by_cases hblank : Blank source
  · have hnone : evaluate source = .ok none := evaluate_of_parse (parse_of_blank hblank)
    refine ⟨iff_of_true hnone hblank, fun _ _ hsource => absurd hblank hsource, fun _ h => ?_⟩
    rw [hnone] at h
    cases h
  refine ⟨iff_of_false ?_ hblank, fun e h => evaluate_of_not_blank h, ?_⟩
  · rcases evaluate_cases hblank with ⟨v, heq⟩ | ⟨f, heq, -⟩ <;> simp [heq]
  · intro failure hfailure
    rcases evaluate_cases hblank with ⟨v, heq⟩ | ⟨f, heq, hkind⟩
    · rw [heq] at hfailure
      cases hfailure
    · rw [heq] at hfailure
      obtain rfl := Except.error.inj hfailure
      exact ⟨f, rfl, hkind⟩

/-- An operand without a value is only found in trees that are no text's. -/
example (symbol : String) (span : Span) :
    (Expr.prefixed .not symbol .blank span).evaluate = .error (.fault (.missingValue .origin)) :=
  rfl

end Condition
