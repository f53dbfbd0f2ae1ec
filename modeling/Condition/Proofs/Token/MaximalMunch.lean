/-
The scanner is a maximal-munch tokenizer of the lexical rules.

* `Tiled.ordered`, `Tiled.located`, `Tiled.covered`: tokens do not overlap, each is the
  longest match in the text at its offset, and they leave only skipped characters out;
* `MaximalMunch`: these three properties;
* `tokens_maximal_munch`: the tokens of a source text have them, and a source text
  without tokens is reported at the first character that starts none.
-/
import Condition.Proofs.Token.Tiling

namespace Condition

variable {offset : Nat} {cs : List Char} {ts : List Token}

/-! ### Where the tokens of a text are -/

/-- No token begins before the text does. -/
lemma Tiled.offset_le (h : Tiled offset cs ts) : ∀ t ∈ ts, offset ≤ t.offset := by
  induction h with
  | nil => simp
  | blank _ _ ih => exact fun t ht => Nat.le_trans (Nat.le_add_right _ _) (ih t ht)
  | token _ _ ih =>
      rintro t (_ | ⟨_, ht⟩)
      · exact Nat.le_refl _
      · exact Nat.le_trans (Nat.le_add_right _ _) (ih t ht)

/-- **Tokens come in order** and do not overlap. -/
lemma Tiled.ordered (h : Tiled offset cs ts) :
    ts.Pairwise fun t u => t.span.stop ≤ u.offset := by
  induction h with
  | nil => exact .nil
  | blank _ _ ih => exact ih
  | token _ h ih =>
      refine .cons (fun u hu => ?_) ih
      rw [Token.span, String.toList_ofList]
      exact h.offset_le u hu

/-- **Every token is the longest match** in the text where it stands. -/
lemma Tiled.located (h : Tiled offset cs ts) {t : Token} (ht : t ∈ ts) :
    ∃ before after, cs = before ++ (t.lexeme.toList ++ after) ∧
      t.offset = offset + Text.width before ∧
      LongestMatch (t.lexeme.toList ++ after) t.lexeme.toList t.kind := by
  obtain ⟨front, back, rfl⟩ := List.append_of_mem ht
  obtain ⟨before, after, hcs, hoffset, hmatch, -⟩ := h.split
  exact ⟨before, after, hcs, hoffset, hmatch⟩

/-- **The rest is skipped**: every other character of the text is within a token. -/
lemma Tiled.covered (h : Tiled offset cs ts) {before after : List Char} {c : Char}
    (hcs : cs = before ++ c :: after) (hc : isSkipped c = false) :
    ∃ t ∈ ts, t.offset ≤ offset + Text.width before ∧
      offset + Text.width before + c.utf8Size ≤ t.span.stop := by
  induction h generalizing before with
  | nil => simp at hcs
  | @blank offset d cs ts hd _ ih =>
      cases before with
      | nil =>
          obtain ⟨rfl, rfl⟩ := List.cons.inj hcs
          rw [hd] at hc
          cases hc
      | cons d' before =>
          obtain ⟨rfl, rfl⟩ := List.cons.inj hcs
          obtain ⟨t, ht, hstart, hstop⟩ := ih rfl
          refine ⟨t, ht, ?_, ?_⟩ <;> rw [Text.width_cons, ← Nat.add_assoc] <;> assumption
  | @token offset kind w cs ts hw _ ih =>
      rcases List.append_eq_append_iff.mp hcs with ⟨rest, rfl, hrest⟩ | ⟨rest, rfl, hrest⟩
      · obtain ⟨t, ht, hstart, hstop⟩ := ih hrest
        refine ⟨t, List.mem_cons_of_mem _ ht, ?_, ?_⟩ <;>
          rw [Text.width_append, ← Nat.add_assoc] <;> assumption
      · cases rest with
        | nil =>
            have hcs' : cs = [] ++ c :: after := hrest.symm
            obtain ⟨t, ht, hstart, hstop⟩ := ih hcs'
            rw [List.append_nil, Text.width_nil, Nat.add_zero] at hstart hstop
            exact ⟨t, List.mem_cons_of_mem _ ht, hstart, hstop⟩
        | cons d rest =>
            obtain ⟨rfl, rfl⟩ := List.cons.inj hrest
            refine ⟨_, List.mem_cons_self, Nat.le_add_right _ _, ?_⟩
            simp only [Token.span, String.toList_ofList, Text.width_append, Text.width_cons]
            omega

/-! ### The tokens of a source text -/

/-- **What the tokens of a text are**: pieces of it in their order, each the longest
match where it stands, with skipped characters between them. -/
structure MaximalMunch (cs : List Char) (ts : List Token) : Prop where
  ordered : ts.Pairwise fun t u => t.span.stop ≤ u.offset
  longest : ∀ t ∈ ts, ∃ before after, cs = before ++ (t.lexeme.toList ++ after) ∧
    t.offset = Text.width before ∧ LongestMatch (t.lexeme.toList ++ after) t.lexeme.toList t.kind
  covered : ∀ before c after, cs = before ++ c :: after → isSkipped c = false →
    ∃ t ∈ ts, t.offset ≤ Text.width before ∧ Text.width before + c.utf8Size ≤ t.span.stop

/-- **Why a text has no tokens**: the failure is reported at one whole character of it,
which is not skipped, where no rule matches and up to which the text has tokens. -/
def Unidentified (cs : List Char) (failure : Failure) : Prop :=
  ∃ before c after fault, cs = before ++ c :: after ∧ failure = .fault fault ∧
    fault.diagnostic =
      { kind := .lex
        message := Fault.plainMessage "expressions-unidentified-token" [String.ofList [c]]
        span := ⟨Text.width before, Text.width before + c.utf8Size⟩ } ∧
    isSkipped c = false ∧
    (∀ rule ∈ rules, ∀ v, v <+: c :: after → ¬rule.pattern.Matches v) ∧
    ∃ ts, tokens (String.ofList before) = .ok ts

lemma Tiled.maximalMunch (h : Tiled 0 cs ts) : MaximalMunch cs ts where
  ordered := h.ordered
  longest t ht := by simpa using h.located ht
  covered before c after hcs hc := by simpa using h.covered hcs hc

/-- **Maximal munch.** Every source text either has its tokens, which are the longest
matches of the rules one after the other, or it is reported at the first character
that is not skipped and starts no token. -/
theorem tokens_maximal_munch (source : String) :
    match tokens source with
    | .ok ts => MaximalMunch source.toList ts
    | .error failure => Unidentified source.toList failure := by
  cases hscan : scan 0 source.toList with
  | ok ts =>
      have htiled := scan_eq_ok_iff.mp hscan
      rw [tokens_eq_ok_iff.mpr htiled]
      exact htiled.maximalMunch
  | error p =>
      obtain ⟨before, c, after, ts, hsource, rfl, htiled, hc, hnone⟩ := stuckAt_of_scan hscan
      rw [Nat.zero_add] at hscan
      rw [tokens_eq_error hsource hscan]
      have hts : tokens (String.ofList before) = .ok ts :=
        tokens_eq_ok_iff.mpr (by rwa [String.toList_ofList])
      exact ⟨before, c, after, _, hsource, rfl, rfl, hc, hnone, ts, hts⟩

end Condition
