/-
Texts put together at a character that goes on with no token.

* `isSeam`: the characters that no spelling has behind its first character and that go on
  with no number;
* `LongestMatch.seam`: a longest match stays one when such a character is put behind the
  text, with whatever follows it;
* `Tiled.append`: so a text keeps its tokens there;
* `Tiled.group`: the tokens of a text in parentheses.
-/
import Condition.Proofs.Token.Cut

namespace Condition

/-! ### Characters at a seam -/

/-- Whether no text of the pattern goes on with the character. A quoted text goes on with
every character up to its closing quote, but behind that quote with none. -/
def Pattern.endsBefore : Pattern → Char → Bool
  | .spelling text, c => !text.tail.contains c
  | .number, c => !c.isDigit && c != '.'
  | .quoted, _ => true

/-- Whether no token goes on with the character. -/
def isSeam (c : Char) : Bool := rules.all fun rule => rule.pattern.endsBefore c

/-- No character of a number is at a seam, and none of a spelling but the first. -/
lemma Pattern.Matches.not_mem_tail {p : Pattern} {v : List Char} {c : Char} (h : p.Matches v)
    (hquoted : p ≠ .quoted) (hc : p.endsBefore c = true) : c ∉ v.tail := by
  intro hmem
  cases h with
  | spelling =>
      rw [endsBefore, List.contains_iff_mem.mpr hmem] at hc
      cases hc
  | whole hd =>
      rw [endsBefore, hd.2 c (List.mem_of_mem_tail hmem)] at hc
      cases hc
  | decimal hd hf =>
      rcases List.mem_append.mp (List.mem_of_mem_tail hmem) with hmem | hmem
      · rw [endsBefore, hd.2 c hmem] at hc
        cases hc
      · rcases List.mem_cons.mp hmem with rfl | hmem
        · cases hc
        · rw [endsBefore, hf.2 c hmem] at hc
          cases hc
  | quoted => exact hquoted rfl

/-- A quoted text is complete: none goes on behind another. -/
lemma Pattern.Matches.quoted_eq {w v : List Char} (hw : Pattern.quoted.Matches w)
    (hv : Pattern.quoted.Matches v) (h : w <+: v) : w = v := by
  obtain ⟨rest, rfl⟩ := h
  cases hw with
  | @quoted body hbody =>
  generalize htext : ('"' :: (body ++ ['"'])) ++ rest = text at hv
  cases hv with
  | @quoted body' hbody' =>
  rw [List.cons_append, List.append_assoc, List.singleton_append] at htext
  have hbodies := (List.cons.inj htext).2
  have hclose := congrArg closing? hbodies
  rw [closing?_append hbody, closing?_append hbody', Option.some.injEq,
    Nat.add_right_cancel_iff] at hclose
  rw [(List.append_inj hbodies hclose).1]

/-- What begins with a quote is quoted. -/
lemma Rule.pattern_eq_quoted {rule rule' : Rule} {w v : List Char} (hrule : rule ∈ rules)
    (hrule' : rule' ∈ rules) (hw : rule.pattern.Matches w) (hv : rule'.pattern.Matches v)
    (h : w <+: v) (hquoted : rule'.pattern = .quoted) : rule.pattern = .quoted := by
  obtain ⟨c, cs, rfl, hc⟩ := Rule.begins_of_matches hrule hw
  obtain ⟨d, ds, rfl, hd⟩ := Rule.begins_of_matches hrule' hv
  obtain ⟨rfl, -⟩ := List.cons_prefix_cons.mp h
  rw [hquoted] at hd
  obtain rfl : c = '"' := by simpa [Pattern.begins] using hd
  cases hpattern : rule.pattern with
  | spelling | number =>
      rw [hpattern] at hc
      simp [Pattern.begins] at hc
  | quoted => rfl

/-! ### Longest matches at a seam -/

/-- A text of a rule is the longest match if there is nothing behind it. -/
lemma LongestMatch.self {rule : Rule} {w : List Char} (hrule : rule ∈ rules)
    (hm : rule.pattern.Matches w) : LongestMatch w w rule.kind :=
  .of_le hrule hm (List.prefix_refl w) fun _ _ _ hv _ => hv.length_le

/-- **Seams**: a longest match stays one when a text is put behind that begins with a
character at a seam. -/
lemma LongestMatch.seam {w cs : List Char} {kind : TokenKind} {c : Char} (hc : isSeam c = true)
    (h : LongestMatch (w ++ cs) w kind) (rest : List Char) :
    LongestMatch (w ++ (cs ++ c :: rest)) w kind := by
  obtain ⟨rule, hrule, rfl, hm⟩ := h.rule
  refine .of_le hrule hm (List.prefix_append w _) fun rule' hrule' v hv hmv => ?_
  obtain ⟨behind, hv⟩ := hv
  rw [← List.append_assoc] at hv
  rcases List.append_eq_append_iff.mp hv with ⟨front, hfront, -⟩ | ⟨back, rfl, hback⟩
  · exact h.longest rule' hrule' v ⟨front, hfront.symm⟩ hmv
  · cases back with
    | nil =>
        rw [List.append_nil] at hmv ⊢
        exact h.longest rule' hrule' _ (List.prefix_refl _) hmv
    | cons d back =>
        -- the character at the seam is in the text of the rule, which has to be quoted
        obtain ⟨rfl, -⟩ := List.cons.inj hback
        obtain ⟨e, w, rfl, -⟩ := h.exists_cons
        have hw : e :: w <+: ((e :: w) ++ cs) ++ c :: back := by
          rw [List.append_assoc]
          exact List.prefix_append _ _
        have hquoted : rule'.pattern = .quoted := by
          by_contra hquoted
          refine hmv.not_mem_tail hquoted (List.all_eq_true.mp hc rule' hrule') ?_
          simp
        have hrule_quoted := Rule.pattern_eq_quoted hrule hrule' hm hmv hw hquoted
        rw [hrule_quoted] at hm
        rw [hquoted] at hmv
        exact Nat.le_of_eq (congrArg List.length (hm.quoted_eq hmv hw)).symm

/-! ### Texts at a seam -/

/-- **Texts put together**: a text keeps its tokens when another one is put behind it that
begins with a character at a seam. -/
theorem Tiled.append {offset : Nat} {cs rest : List Char} {ts us : List Token} {c : Char}
    (hc : isSeam c = true) (h : Tiled offset cs ts)
    (hrest : Tiled (offset + Text.width cs) (c :: rest) us) :
    Tiled offset (cs ++ c :: rest) (ts ++ us) := by
  induction h with
  | nil => exact hrest
  | blank hblank _ ih =>
      rw [Text.width_cons, ← Nat.add_assoc] at hrest
      exact .blank hblank (ih hrest)
  | token hw _ ih =>
      rw [Text.width_append, ← Nat.add_assoc] at hrest
      rw [List.append_assoc]
      exact .token (hw.seam hc rest) (ih hrest)

/-- **A text in parentheses** has its tokens between two more. -/
lemma Tiled.group {offset : Nat} {cs rest : List Char} {ts us : List Token}
    (h : Tiled (offset + 1) cs ts) (hrest : Tiled (offset + (Text.width cs + 2)) rest us) :
    Tiled offset (('(' :: (cs ++ [')'])) ++ rest)
      ((⟨"(", .leftParen, offset⟩ ::
        (ts ++ [⟨")", .rightParen, offset + 1 + Text.width cs⟩])) ++ us) := by
  have hclosing : Tiled (offset + 1 + Text.width cs) (')' :: rest)
      (⟨")", .rightParen, offset + 1 + Text.width cs⟩ :: us) := by
    have hoffset : offset + (Text.width cs + 2) = offset + 1 + Text.width cs + 1 := by omega
    rw [hoffset] at hrest
    exact .of_longest? (m := ⟨.rightParen, 1, by decide⟩) rfl hrest
  simp only [List.cons_append, List.append_assoc]
  exact .of_longest? (m := ⟨.leftParen, 1, by decide⟩) rfl (Tiled.append rfl h hclosing)

/-- A spelling before a parenthesis is a token of its kind. -/
lemma TokenKind.Spells.tiled {kind : TokenKind} {s : String} (h : kind.Spells s) {offset : Nat}
    {rest : List Char} {us : List Token}
    (hrest : Tiled (offset + Text.width s.toList) ('(' :: rest) us) :
    Tiled offset (s.toList ++ '(' :: rest) (⟨s, kind, offset⟩ :: us) := by
  obtain ⟨rule, hrule, rfl, hpattern⟩ := h
  have halone : LongestMatch (s.toList ++ []) s.toList rule.kind := by
    rw [List.append_nil]
    exact .self hrule (by rw [hpattern]; exact .spelling _)
  have hseam : isSeam '(' = true := rfl
  have htiled := Tiled.token (halone.seam hseam rest) hrest
  rwa [String.ofList_toList] at htiled

end Condition
