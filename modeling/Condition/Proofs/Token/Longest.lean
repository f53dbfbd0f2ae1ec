/-
The longest match of the lexical rules.

* `LongestMatch`: the longest text in front that a rule matches, with its kind; there
  is one at most (`LongestMatch.unique`), and it stays if the text behind it is cut
  (`LongestMatch.truncate`);
* `LongestMatch.spells`: it is a spelling of its kind, unless it is a number or a string;
* `longest?_eq_some`, `LongestMatch.longest?_eq`: `longest?` finds it;
* `longest?_eq_none_iff`: and finds nothing only where no rule matches.
-/
import Condition.Proofs.Token.Language

namespace Condition

/-- The text `w` is the longest one in front of `cs` that a rule matches, and no rule of
another kind matches a text in front that is as long. -/
structure LongestMatch (cs w : List Char) (kind : TokenKind) : Prop where
  front : w <+: cs
  ne_nil : w ≠ []
  rule : ∃ rule ∈ rules, rule.kind = kind ∧ rule.pattern.Matches w
  longest : ∀ rule ∈ rules, ∀ v, v <+: cs → rule.pattern.Matches v → v.length ≤ w.length
  kind_eq : ∀ rule ∈ rules, ∀ v, v <+: cs → v.length = w.length → rule.pattern.Matches v →
    rule.kind = kind

/-- What is neither a number nor a string is spelled. -/
lemma kind_of_pattern : ∀ rule ∈ rules,
    (rule.pattern = .number → rule.kind = .numberLiteral) ∧
      (rule.pattern = .quoted → rule.kind = .stringLiteral) := by
  decide

namespace LongestMatch

variable {cs w w' : List Char} {kind kind' : TokenKind}

/-- A text of a rule is the longest match if no text of a rule in front is longer. -/
lemma of_le {rule : Rule} (hrule : rule ∈ rules) (hm : rule.pattern.Matches w)
    (hfront : w <+: cs)
    (hle : ∀ rule' ∈ rules, ∀ v, v <+: cs → rule'.pattern.Matches v → v.length ≤ w.length) :
    LongestMatch cs w rule.kind := by
  refine ⟨hfront, ?_, ⟨rule, hrule, rfl, hm⟩, hle, ?_⟩
  · obtain ⟨c, v, rfl, -⟩ := Rule.begins_of_matches hrule hm
    exact List.cons_ne_nil c v
  · intro rule' hrule' v hv hlen hmv
    obtain rfl : v = w :=
      (List.prefix_of_prefix_length_le hv hfront (Nat.le_of_eq hlen)).eq_of_length hlen
    exact Rule.kind_eq hrule' hrule hmv hm

/-- A longest match stays one wherever the text behind it is cut off. -/
lemma truncate {mid after : List Char} (h : LongestMatch (w ++ (mid ++ after)) w kind) :
    LongestMatch (w ++ mid) w kind := by
  have hcut : w ++ mid <+: w ++ (mid ++ after) := ⟨after, List.append_assoc w mid after⟩
  obtain ⟨rule, hrule, rfl, hm⟩ := h.rule
  exact .of_le hrule hm (List.prefix_append w mid) fun rule' hrule' v hv =>
    h.longest rule' hrule' v (hv.trans hcut)

/-- There is one longest match at most, and it is of one kind. -/
lemma unique (h : LongestMatch cs w kind) (h' : LongestMatch cs w' kind') :
    w = w' ∧ kind = kind' := by
  obtain ⟨rule, hrule, hkind, hm⟩ := h.rule
  obtain ⟨rule', hrule', hkind', hm'⟩ := h'.rule
  have hle : w.length ≤ w'.length := h'.longest rule hrule w h.front hm
  have hge : w'.length ≤ w.length := h.longest rule' hrule' w' h'.front hm'
  obtain rfl : w = w' :=
    (List.prefix_of_prefix_length_le h.front h'.front hle).eq_of_length
      (Nat.le_antisymm hle hge)
  exact ⟨rfl, by rw [← hkind, ← hkind', Rule.kind_eq hrule hrule' hm hm']⟩

/-- A longest match begins with a character that is not skipped. -/
lemma exists_cons (h : LongestMatch cs w kind) : ∃ c v, w = c :: v ∧ isSkipped c = false := by
  obtain ⟨rule, hrule, -, hm⟩ := h.rule
  obtain ⟨c, v, rfl, hc⟩ := Rule.begins_of_matches hrule hm
  exact ⟨c, v, rfl, Pattern.not_isSkipped_of_begins hc⟩

/-- A token of a text that is neither a number nor a string is spelled. -/
lemma spells {s : String} (h : LongestMatch cs s.toList kind) (hnumber : kind ≠ .numberLiteral)
    (hstring : kind ≠ .stringLiteral) : kind.Spells s := by
  obtain ⟨rule, hrule, rfl, hm⟩ := h.rule
  obtain ⟨hdigits, hquotes⟩ := kind_of_pattern rule hrule
  refine ⟨rule, hrule, rfl, ?_⟩
  generalize rule.pattern = p at hm hdigits hquotes
  cases p with
  | spelling text =>
      cases hm
      rfl
  | number => exact absurd (hdigits rfl) hnumber
  | quoted => exact absurd (hquotes rfl) hstring

end LongestMatch

/-! ### The longest match of the rules seen so far -/

/-- The best match of the rules `seen` in front of `cs`, if one of them matches. -/
def BestOf (cs : List Char) (seen : List Rule) : Option Munch → Prop
  | none => ∀ rule ∈ seen, rule.pattern.reach cs = 0
  | some m =>
    (∃ rule ∈ seen, rule.kind = m.kind ∧ rule.pattern.reach cs = m.length) ∧
      ∀ rule ∈ seen, rule.pattern.reach cs ≤ m.length

/-- One more rule is seen. -/
lemma BestOf.extend {cs : List Char} {seen : List Rule} {best : Option Munch}
    (h : BestOf cs seen best) (rule : Rule) :
    BestOf cs (seen ++ [rule]) (Munch.extend cs best rule) := by
  cases best with
  | none =>
      by_cases hpos : 0 < rule.pattern.reach cs
      · simp only [Munch.extend, dif_pos hpos]
        refine ⟨⟨rule, by simp, rfl, rfl⟩, List.forall_mem_append.mpr ⟨?_, by simp⟩⟩
        intro rule' hseen
        rw [h rule' hseen]
        exact Nat.zero_le _
      · simp only [Munch.extend, dif_neg hpos]
        have hnone : rule.pattern.reach cs = 0 := by omega
        exact List.forall_mem_append.mpr ⟨h, by simpa using hnone⟩
  | some m =>
      obtain ⟨⟨winner, hwinner, hkind, hreach⟩, hbest⟩ := h
      by_cases hlonger : m.length < rule.pattern.reach cs
      · simp only [Munch.extend, dif_pos hlonger]
        refine ⟨⟨rule, by simp, rfl, rfl⟩, List.forall_mem_append.mpr ⟨?_, by simp⟩⟩
        intro rule' hseen
        exact Nat.le_of_lt (Nat.lt_of_le_of_lt (hbest rule' hseen) hlonger)
      · simp only [Munch.extend, dif_neg hlonger]
        have hshort : rule.pattern.reach cs ≤ m.length := Nat.le_of_not_lt hlonger
        exact ⟨⟨winner, by simp [hwinner], hkind, hreach⟩,
          List.forall_mem_append.mpr ⟨hbest, by simpa using hshort⟩⟩

/-- All rules are seen. -/
lemma BestOf.foldl {cs : List Char} {seen : List Rule} {best : Option Munch}
    (h : BestOf cs seen best) (more : List Rule) :
    BestOf cs (seen ++ more) (more.foldl (Munch.extend cs) best) := by
  induction more generalizing seen best with
  | nil => simpa using h
  | cons rule more ih => simpa using ih (h.extend rule)

lemma bestOf_longest? (cs : List Char) : BestOf cs rules (longest? cs) := by
  have hnone : BestOf cs [] none := by simp [BestOf]
  exact hnone.foldl rules

/-! ### `longest?` -/

/-- What the scanner takes is a longest match. -/
theorem longest?_eq_some {cs : List Char} {m : Munch} (h : longest? cs = some m) :
    m.length ≤ cs.length ∧ LongestMatch cs (cs.take m.length) m.kind := by
  obtain ⟨⟨rule, hrule, hkind, hreach⟩, hbest⟩ := h ▸ bestOf_longest? cs
  have hpos : 0 < rule.pattern.reach cs := by
    rw [hreach]
    exact m.length_pos
  obtain ⟨w, rest, rfl, hlen, hm⟩ := Pattern.matches_reach hpos
  rw [hreach] at hlen
  have hw : (w ++ rest).take m.length = w := by rw [← hlen, List.take_left]
  rw [hw]
  refine ⟨by rw [← hlen, List.length_append]; exact Nat.le_add_right _ _, ?_⟩
  rw [← hkind]
  refine .of_le hrule hm (List.prefix_append w rest) fun rule' hrule' v hv hmv => ?_
  obtain ⟨rest', hrest'⟩ := hv
  calc v.length ≤ rule'.pattern.reach (v ++ rest') := hmv.length_le_reach rest'
    _ = rule'.pattern.reach (w ++ rest) := by rw [hrest']
    _ ≤ m.length := hbest rule' hrule'
    _ = w.length := hlen.symm

/-- No spelling goes on after `!<-`, so that the match is the first character alone. -/
example : longest? ['!', '<', '-', '1'] = some ⟨.not, 1, Nat.one_pos⟩ := rfl

/-- **No match**: the scanner finds nothing where no rule matches. -/
theorem longest?_eq_none_iff {cs : List Char} :
    longest? cs = none ↔ ∀ rule ∈ rules, ∀ v, v <+: cs → ¬rule.pattern.Matches v := by
  have hbest := bestOf_longest? cs
  constructor
  · intro h rule hrule v hv hm
    rw [h] at hbest
    obtain ⟨rest, rfl⟩ := hv
    have hle := hm.length_le_reach rest
    obtain ⟨c, v, rfl, -⟩ := Rule.begins_of_matches hrule hm
    rw [hbest rule hrule] at hle
    simp at hle
  · intro h
    cases hm : longest? cs with
    | none => rfl
    | some m =>
        obtain ⟨rule, hrule, -, hmatch⟩ := (longest?_eq_some hm).2.rule
        exact absurd hmatch (h rule hrule _ (longest?_eq_some hm).2.front)

/-- **The longest match** is what the scanner takes. -/
theorem LongestMatch.longest?_eq {cs w : List Char} {kind : TokenKind}
    (h : LongestMatch cs w kind) :
    ∃ m, longest? cs = some m ∧ m.kind = kind ∧ cs.take m.length = w := by
  obtain ⟨rule, hrule, -, hm⟩ := h.rule
  cases hbest : longest? cs with
  | none => exact absurd hm (longest?_eq_none_iff.mp hbest rule hrule w h.front)
  | some m =>
      obtain ⟨hw, hkind⟩ := (longest?_eq_some hbest).2.unique h
      exact ⟨m, rfl, hkind, hw⟩

end Condition
