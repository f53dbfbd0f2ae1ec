/-
The parentheses of a text are those of its tokens, unless they stand in a string.

* `Token.paren?`: which tokens are parentheses;
* `LongestMatch.filterMap_paren?`: what parentheses the text of a token has;
* `Tiled.filterMap_paren?`: the text and its tokens have the same parentheses, if no string
  literal has one;
* `Tiled.balanced_iff`: so the text is balanced if and only if its tokens are;
* `Tiled.of_parens`: the text of tokens that are all the same parenthesis.
-/
import Condition.Proofs.Text.Paren
import Condition.Proofs.Token.Tiling

namespace Condition

/-- Which kinds of tokens are parentheses. -/
def TokenKind.paren? : TokenKind → Option Paren
  | leftParen => some .opening
  | rightParen => some .closing
  | _ => none

/-- Which tokens are parentheses. -/
def Token.paren? (t : Token) : Option Paren := t.kind.paren?

lemma Token.paren?_eq_opening {t : Token} : t.paren? = some .opening ↔ t.kind = .leftParen := by
  cases hkind : t.kind <;> simp [Token.paren?, TokenKind.paren?, hkind]

lemma Token.paren?_eq_closing {t : Token} : t.paren? = some .closing ↔ t.kind = .rightParen := by
  cases hkind : t.kind <;> simp [Token.paren?, TokenKind.paren?, hkind]

/-! ### The text of a token -/

/-- The spelling of a parenthesis is its character. -/
lemma pattern_of_paren : ∀ rule ∈ rules, ∀ p ∈ rule.kind.paren?,
    rule.pattern = .spelling [p.char] := by
  decide

/-- **The text of a parenthesis** is its character. -/
lemma LongestMatch.eq_paren {cs w : List Char} {kind : TokenKind} {p : Paren}
    (h : LongestMatch cs w kind) (hkind : kind.paren? = some p) : w = [p.char] := by
  obtain ⟨rule, hrule, rfl, hm⟩ := h.rule
  rw [pattern_of_paren rule hrule p hkind] at hm
  cases hm
  rfl

/-- The spellings of the parentheses are these characters, and other spellings have none. -/
lemma filterMap_paren?_of_rule : ∀ rule ∈ rules,
    (match rule.pattern with
      | .spelling text => text.filterMap Text.paren?
      | _ => []) = rule.kind.paren?.toList := by
  decide

lemma Digits.filterMap_paren? {ds : List Char} (h : Digits ds) :
    ds.filterMap Text.paren? = [] :=
  List.filterMap_eq_nil_iff.mpr fun c hc => Text.paren?_eq_none_of (h.2 c hc) rfl rfl

/-- **The text of a token** has the parenthesis that the token is, and no other one outside of
strings. -/
lemma LongestMatch.filterMap_paren? {cs w : List Char} {kind : TokenKind}
    (h : LongestMatch cs w kind)
    (hstring : kind = .stringLiteral → w.filterMap Text.paren? = []) :
    w.filterMap Text.paren? = kind.paren?.toList := by
  obtain ⟨rule, hrule, rfl, hm⟩ := h.rule
  have hspelling := filterMap_paren?_of_rule rule hrule
  have hquotes := (kind_of_pattern rule hrule).2
  generalize rule.pattern = p at hm hspelling hquotes
  cases hm with
  | spelling => exact hspelling
  | whole hd => rw [hd.filterMap_paren?, ← hspelling]
  | decimal hd hf =>
      rw [List.filterMap_append, hd.filterMap_paren?, List.filterMap_cons_none (by decide),
        hf.filterMap_paren?, ← hspelling]
      rfl
  | quoted => rw [hstring (hquotes rfl), ← hspelling]

/-! ### The text of some tokens -/

section Tiles

variable {offset : Nat} {cs : List Char} {ts : List Token}

/-- **The parentheses of a text** are those of its tokens, if no string literal has one. -/
lemma Tiled.filterMap_paren? (h : Tiled offset cs ts)
    (hstrings : ∀ t ∈ ts, t.kind = .stringLiteral →
      t.lexeme.toList.filterMap Text.paren? = []) :
    cs.filterMap Text.paren? = ts.filterMap Token.paren? := by
  induction h with
  | nil => rfl
  | @blank _ c cs ts hc _ ih =>
      rw [List.filterMap_cons_none (Text.paren?_eq_none_of hc rfl rfl), ih hstrings]
  | @token _ kind w cs ts hw _ ih =>
      obtain ⟨hfirst, hrest⟩ := List.forall_mem_cons.mp hstrings
      rw [String.toList_ofList] at hfirst
      rw [List.filterMap_append, hw.filterMap_paren? hfirst, ih hrest, List.filterMap_cons,
        Token.paren?]
      cases kind.paren? <;> rfl

/-- **A text is balanced** if and only if its tokens are, if no string literal has a
parenthesis. -/
lemma Tiled.balanced_iff (h : Tiled offset cs ts)
    (hstrings : ∀ t ∈ ts, t.kind = .stringLiteral →
      t.lexeme.toList.filterMap Text.paren? = []) :
    Balanced Text.paren? cs ↔ Balanced Token.paren? ts := by
  rw [← balanced_filterMap, h.filterMap_paren? hstrings, balanced_filterMap]

/-- **The text of equal parentheses** has one for each, and is skipped otherwise. -/
lemma Tiled.of_parens {p : Paren} (h : Tiled offset cs ts) (hts : ∀ t ∈ ts, t.paren? = some p) :
    (∀ c ∈ cs, c = p.char ∨ isSkipped c = true) ∧ cs.count p.char = ts.length := by
  induction h with
  | nil => exact ⟨List.forall_mem_nil _, rfl⟩
  | @blank _ c cs ts hc _ ih =>
      obtain ⟨hchars, hcount⟩ := ih hts
      have hne : c ≠ p.char := by
        rintro rfl
        cases p <;> cases hc
      exact ⟨List.forall_mem_cons.mpr ⟨.inr hc, hchars⟩, by rw [List.count_cons_of_ne hne, hcount]⟩
  | @token _ _ w cs ts hw _ ih =>
      obtain ⟨hfirst, hrest⟩ := List.forall_mem_cons.mp hts
      obtain rfl := hw.eq_paren hfirst
      obtain ⟨hchars, hcount⟩ := ih hrest
      exact ⟨List.forall_mem_cons.mpr ⟨.inl rfl, hchars⟩, by
        rw [List.singleton_append, List.count_cons_self, hcount, List.length_cons]⟩

end Tiles

end Condition
