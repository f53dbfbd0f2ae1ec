/-
The order of the rules is of no account.

The reference scanner reads the lexical rules as a list of priorities: it skips blanks and
takes the first rule that matches, each rule with its own longest match. A rule is the
rule of a kind, with all the spellings of the kind.

* `TokenKind.declared`: the kinds in the order in which their rules are tried;
* `TokenKind.ownLongest?`, `firstMatch?`: the longest match of the rule of a kind, and the
  match of the first rule that has one;
* `scanInOrder`, `tokensInOrder`: the reference scanner;
* `declared_pairwise`: no spelling leads into a spelling of a later rule;
* `firstMatch?_eq_longest?`: so the first match is the longest one;
* `tokensInOrder_eq_tokens`: and the reference scanner gives the same tokens, or the same
  report.
-/
import Condition.Proofs.Token.Tiling

namespace Condition

/-! ### The reference scanner -/

/-- The kinds in the order in which their rules are tried. -/
def TokenKind.declared : List TokenKind :=
  [.stringLiteral, .numberLiteral, .falseLiteral, .trueLiteral, .conjunction, .disjunction,
    .equality, .notEquality, .equals, .notEquals, .implication, .xor, .greaterEqual, .lessEqual,
    .greater, .less, .not, .minus, .leftParen, .rightParen]

/-- The lexical rules for the texts of one kind. -/
def TokenKind.ownRules (kind : TokenKind) : List Rule :=
  rules.filter fun rule => rule.kind = kind

/-- The longest match that a kind has in front of a text. -/
def TokenKind.ownLongest? (kind : TokenKind) (cs : List Char) : Option Munch :=
  kind.ownRules.foldl (Munch.extend cs) none

/-- The match of the first kind that has one in front of a text. -/
def firstMatch? (cs : List Char) : Option Munch :=
  TokenKind.declared.findSome? fun kind => kind.ownLongest? cs

/-- Cuts the text that starts at `offset` into tokens: blanks are dropped, and then the first
rule that matches is taken. The failure is the offset of a character where none does. -/
def scanInOrder (offset : Nat) (cs : List Char) : Except Nat (List Token) :=
  let start := offset + Text.width (cs.takeWhile isSkipped)
  match _h : cs.dropWhile isSkipped with
  | [] => .ok []
  | c :: rest =>
    match firstMatch? (c :: rest) with
    | none => .error start
    | some m => do
      let lexeme := (c :: rest).take m.length
      let ts ← scanInOrder (start + Text.width lexeme) ((c :: rest).drop m.length)
      return ⟨String.ofList lexeme, m.kind, start⟩ :: ts
termination_by cs.length
decreasing_by
  have hpos := m.length_pos
  have hle := (List.dropWhile_suffix isSkipped (l := cs)).length_le
  rw [_h] at hle
  simp only [List.length_drop, List.length_cons] at hle ⊢
  omega

/-- The tokens of a source text by the reference scanner. -/
def tokensInOrder (source : String) : Except Failure (List Token) :=
  match scanInOrder 0 source.toList with
  | .ok ts => .ok ts
  | .error offset => do
    let fault ← Fault.unidentifiedAt source.toList offset
    .error (.fault fault)

/-! ### Which rules can match together -/

/-- Whether the one pattern is a spelling with which the other one, a spelling as well,
begins. -/
def Pattern.leadsInto : Pattern → Pattern → Bool
  | .spelling text, .spelling text' => text.isPrefixOf text'
  | _, _ => false

/-- **Longer spellings come first**: no spelling is the beginning of a spelling of a kind
that is tried later. -/
lemma declared_pairwise : TokenKind.declared.Pairwise fun kind later =>
    ∀ rule ∈ kind.ownRules, ∀ rule' ∈ later.ownRules,
      rule.pattern.leadsInto rule'.pattern = false := by
  decide

lemma mem_declared (kind : TokenKind) : kind ∈ TokenKind.declared := by
  cases kind <;> decide

lemma TokenKind.mem_ownRules {kind : TokenKind} {rule : Rule} :
    rule ∈ kind.ownRules ↔ rule ∈ rules ∧ rule.kind = kind := by
  rw [ownRules, List.mem_filter, decide_eq_true_iff]

/-- If a text of one rule begins with a text of another, the rules have one pattern, or both
texts are spelled. -/
lemma Rule.pattern_eq_or_spelled {rule rule' : Rule} {w v : List Char} (hrule : rule ∈ rules)
    (hrule' : rule' ∈ rules) (hw : rule.pattern.Matches w) (hv : rule'.pattern.Matches v)
    (h : w <+: v) :
    rule.pattern = rule'.pattern ∨
      (rule.pattern = .spelling w ∧ rule'.pattern = .spelling v) := by
  obtain ⟨c, cs, rfl, hc⟩ := Rule.begins_of_matches hrule hw
  obtain ⟨d, ds, rfl, hd⟩ := Rule.begins_of_matches hrule' hv
  obtain ⟨rfl, -⟩ := List.cons_prefix_cons.mp h
  have hquote : Char.isDigit '"' = false := rfl
  generalize rule.pattern = p at hw hc ⊢
  generalize rule'.pattern = q at hv hd ⊢
  cases p <;> cases q <;> simp_all [Pattern.begins]
  obtain ⟨⟩ := hw
  obtain ⟨⟩ := hv
  exact .inr ⟨rfl, rfl⟩

/-- **A later rule reaches no further**, if its pattern is not one that the pattern of the
earlier rule leads into. -/
lemma Rule.reach_le {rule rule' : Rule} {cs : List Char} (hrule : rule ∈ rules)
    (hrule' : rule' ∈ rules) (hlater : rule.pattern.leadsInto rule'.pattern = false)
    (hpos : 0 < rule.pattern.reach cs) : rule'.pattern.reach cs ≤ rule.pattern.reach cs := by
  by_contra hlonger
  have hpos' : 0 < rule'.pattern.reach cs := by omega
  obtain ⟨w, rest, hcs, hlen, hw⟩ := Pattern.matches_reach hpos
  obtain ⟨v, rest', hcs', hlen', hv⟩ := Pattern.matches_reach hpos'
  have hfront : w <+: v :=
    List.prefix_of_prefix_length_le ⟨rest, hcs.symm⟩ ⟨rest', hcs'.symm⟩ (by omega)
  rcases Rule.pattern_eq_or_spelled hrule hrule' hw hv hfront with heq | ⟨hspelled, hspelled'⟩
  · rw [heq] at hlonger
    exact hlonger (Nat.le_refl _)
  · rw [hspelled, hspelled', Pattern.leadsInto, List.isPrefixOf_iff_prefix.mpr hfront] at hlater
    contradiction

/-! ### The first match is the longest one -/

/-- Two rules that reach equally far are of one kind. -/
lemma Rule.kind_eq_of_reach {rule rule' : Rule} {cs : List Char} (hrule : rule ∈ rules)
    (hrule' : rule' ∈ rules) (hpos : 0 < rule.pattern.reach cs)
    (hreach : rule.pattern.reach cs = rule'.pattern.reach cs) : rule.kind = rule'.kind := by
  obtain ⟨w, rest, hcs, hlen, hw⟩ := Pattern.matches_reach hpos
  obtain ⟨w', rest', hcs', hlen', hw'⟩ := Pattern.matches_reach (hreach ▸ hpos)
  have hlength : w.length = w'.length := by rw [hlen, hlen', hreach]
  have hfront : w <+: w' :=
    List.prefix_of_prefix_length_le ⟨rest, hcs.symm⟩ ⟨rest', hcs'.symm⟩ (Nat.le_of_eq hlength)
  obtain rfl : w = w' := hfront.eq_of_length hlength
  exact Rule.kind_eq hrule hrule' hw hw'

/-- All rules have one best match. -/
lemma BestOf.unique {cs : List Char} {best best' : Option Munch} (h : BestOf cs rules best)
    (h' : BestOf cs rules best') : best = best' := by
  cases best with
  | none =>
      cases best' with
      | none => rfl
      | some m' =>
          obtain ⟨⟨rule, hrule, -, hreach⟩, -⟩ := h'
          have hpos := m'.length_pos
          have hnone := h rule hrule
          omega
  | some m =>
      obtain ⟨⟨rule, hrule, hkind, hreach⟩, hbest⟩ := h
      have hpos := m.length_pos
      cases best' with
      | none =>
          have hnone := h' rule hrule
          omega
      | some m' =>
          obtain ⟨⟨rule', hrule', hkind', hreach'⟩, hbest'⟩ := h'
          have hlength : m.length = m'.length := by
            have hle := hbest' rule hrule
            have hge := hbest rule' hrule'
            omega
          have hsame : m.kind = m'.kind := by
            rw [← hkind, ← hkind']
            rw [← hreach] at hpos
            exact Rule.kind_eq_of_reach hrule hrule' hpos (by rw [hreach, hreach', hlength])
          obtain ⟨kind, length, _⟩ := m
          obtain ⟨kind', length', _⟩ := m'
          simp_all

/-- **The first match is the longest one.** -/
theorem firstMatch?_eq_longest? (cs : List Char) : firstMatch? cs = longest? cs := by
  refine BestOf.unique ?_ (bestOf_longest? cs)
  have hown : ∀ kind : TokenKind, BestOf cs kind.ownRules (kind.ownLongest? cs) := by
    intro kind
    have hnone : BestOf cs [] none := by simp [BestOf]
    exact hnone.foldl kind.ownRules
  cases hfirst : firstMatch? cs with
  | none =>
      intro rule hrule
      have hkind := List.findSome?_eq_none_iff.mp hfirst rule.kind (mem_declared rule.kind)
      have hbest := hkind ▸ hown rule.kind
      exact hbest rule (TokenKind.mem_ownRules.mpr ⟨hrule, rfl⟩)
  | some m =>
      obtain ⟨earlier, kind, later, hdeclared, hm, hearlier⟩ :=
        List.findSome?_eq_some_iff.mp hfirst
      obtain ⟨⟨rule, hrule, hkind, hreach⟩, hbest⟩ := hm ▸ hown kind
      have hpairwise := declared_pairwise
      rw [hdeclared] at hpairwise
      obtain ⟨-, hpairwise, -⟩ := List.pairwise_append.mp hpairwise
      obtain ⟨hlater, -⟩ := List.pairwise_cons.mp hpairwise
      refine ⟨⟨rule, (TokenKind.mem_ownRules.mp hrule).1, hkind, hreach⟩, ?_⟩
      intro rule' hrule'
      have hmem := mem_declared rule'.kind
      have hown' : rule' ∈ rule'.kind.ownRules := TokenKind.mem_ownRules.mpr ⟨hrule', rfl⟩
      rw [hdeclared] at hmem
      rcases List.mem_append.mp hmem with hmem | hmem
      · have hnone := hearlier _ hmem ▸ hown rule'.kind
        rw [hnone rule' hown']
        exact Nat.zero_le _
      · rcases List.mem_cons.mp hmem with hsame | hmem
        · exact hbest rule' (hsame ▸ hown')
        · rw [← hreach]
          refine Rule.reach_le (TokenKind.mem_ownRules.mp hrule).1 hrule' ?_ ?_
          · exact hlater _ hmem rule hrule rule' hown'
          · rw [hreach]
            exact m.length_pos

/-! ### The reference scanner gives the same tokens -/

/-- The scanner skips the blanks in front of a text. -/
lemma scan_dropWhile (offset : Nat) (cs : List Char) :
    scan offset cs =
      scan (offset + Text.width (cs.takeWhile isSkipped)) (cs.dropWhile isSkipped) := by
  induction cs generalizing offset with
  | nil => rfl
  | cons c cs ih =>
      by_cases hc : isSkipped c = true
      · rw [scan_blank hc, ih, List.takeWhile_cons_of_pos hc, List.dropWhile_cons_of_pos hc,
          Text.width_cons, Nat.add_assoc]
      · rw [List.takeWhile_cons_of_neg hc, List.dropWhile_cons_of_neg hc, Text.width_nil,
          Nat.add_zero]

/-- **One scanner is the other**, from every offset on. -/
lemma scanInOrder_eq_scan (offset : Nat) (cs : List Char) :
    scanInOrder offset cs = scan offset cs := by
  induction hn : cs.length using Nat.strongRecOn generalizing offset cs with
  | ind n ih =>
      subst hn
      rw [scan_dropWhile, scanInOrder]
      have hle := (List.dropWhile_suffix isSkipped (l := cs)).length_le
      generalize hrest : cs.dropWhile isSkipped = rest at hle
      cases rest with
      | nil => rw [scan]
      | cons c rest =>
          have hc : isSkipped c = false := by
            have hhead := List.head_dropWhile_not isSkipped (l := cs) (by simp [hrest])
            simpa [hrest] using hhead
          simp only [firstMatch?_eq_longest?]
          rw [scan, if_neg (by simp [hc])]
          cases hm : longest? (c :: rest) with
          | none => rfl
          | some m =>
              have hpos := m.length_pos
              have hlt : ((c :: rest).drop m.length).length < cs.length := by
                rw [List.length_drop]
                simp only [List.length_cons] at hle ⊢
                omega
              simp only [ih _ hlt _ _ rfl]

/-- **Rule order is of no account.** On every source text the scanner that takes the longest
match of all rules gives the same tokens as the reference scanner, which takes the first rule
that matches, and where there is no match both report the same character. -/
theorem tokensInOrder_eq_tokens (source : String) : tokensInOrder source = tokens source := by
  cases hscan : scan 0 source.toList with
  | ok ts => simp only [tokensInOrder, tokens, scanInOrder_eq_scan, hscan]
  | error offset => simp only [tokensInOrder, tokens, scanInOrder_eq_scan, hscan]

/-- The rule for `!==` stands before those for `!=` and `!`, and is the first to match. -/
example : firstMatch? ['!', '=', '=', '1'] = some ⟨.notEquality, 3, by decide⟩ := rfl

end Condition
