/-
The parser accepts exactly the grammar within its limits.

* `Resolved`: a call has one answer if a phrase keeps the limits, and reports a
  limit otherwise; `Resolved.bind` puts calls together;
* `Derives.resolved`: the parser takes every phrase of the grammar, whatever comes
  after it, as far as the limits allow;
* `parseTokens_iff_derives`: the trees that the parser answers, the tree that there
  is, and what is answered when a limit is broken.
-/
import Condition.Proofs.Parse.Answer

namespace Condition

open Reading

/-! ### Answers within limits -/

/-- The call `r` answers `answer` if the limits are kept, and it reports the one that
is not kept otherwise. -/
def Resolved {α : Type} (fits : Prop) (r answer : Except Fault α) : Prop :=
  (fits ∧ r = answer) ∨ (¬ fits ∧ ∃ t limit, r = .error (.tooDeep t limit))

namespace Resolved

variable {α β : Type} {fits fits' : Prop} {r r' answer : Except Fault α} {a : α}

/-- Two limits are kept one after the other. -/
lemma trans (h : Resolved fits r r') (h' : fits → Resolved fits' r' answer) :
    Resolved (fits ∧ fits') r answer := by
  rcases h with ⟨hfits, rfl⟩ | ⟨hbroken, t, limit, heq⟩
  · rcases h' hfits with ⟨hfits', heq⟩ | ⟨hbroken, t, limit, heq⟩
    · exact .inl ⟨⟨hfits, hfits'⟩, heq⟩
    · exact .inr ⟨fun h => hbroken h.2, t, limit, heq⟩
  · exact .inr ⟨fun h => hbroken h.1, t, limit, heq⟩

/-- A call goes on with what it was answered. -/
lemma goOn {k : α → Except Fault β} {answer : Except Fault β} (h : Resolved fits r (.ok a))
    (hk : k a = answer) : Resolved fits (r.bind k) answer := by
  subst hk
  rcases h with ⟨hfits, rfl⟩ | ⟨hbroken, t, limit, rfl⟩
  · exact .inl ⟨hfits, rfl⟩
  · exact .inr ⟨hbroken, t, limit, rfl⟩

/-- A call goes on with what it was answered, and may break a limit there. -/
lemma bind {k : α → Except Fault β} {answer : Except Fault β} (h : Resolved fits r (.ok a))
    (h' : fits → Resolved fits' (k a) answer) : Resolved (fits ∧ fits') (r.bind k) answer :=
  (h.goOn rfl).trans h'

end Resolved

lemma resolved_checkNesting (t : Token) (c : Cursor) :
    Resolved (c.nesting ≤ maxNesting) (checkNesting t c) (.ok ()) := by
  rw [checkNesting]
  split
  · next h => exact .inr ⟨Nat.not_le.mpr h, t, maxNesting, rfl⟩
  · next h => exact .inl ⟨Nat.le_of_not_lt h, rfl⟩

lemma resolved_checkDepth (t : Token) (e : Expr) :
    Resolved (e.depth ≤ maxDepth) (checkDepth t e) (.ok ()) := by
  rw [checkDepth]
  split
  · next h => exact .inr ⟨Nat.not_le.mpr h, t, maxDepth, rfl⟩
  · next h => exact .inl ⟨Nat.le_of_not_lt h, rfl⟩

/-! ### Phrases are taken -/

/-- How the parser goes on after a phrase, or after a part of a chain. -/
def parseOn (source : List Char) : Phrase → Expr → Cursor → Except Fault (Expr × Cursor)
  | .chain level, e, c => parseRest source level e c
  | .unary, e, c => .ok (e, c)
  | .primary, e, c => .ok (e, c)

/-- How tightly the operators bind that the parts of a phrase do not take. -/
def Phrase.innerBound : Phrase → Nat
  | chain level => level.rank
  | unary => 0
  | primary => 0

/-- An operator does not continue what binds as tightly as it does. -/
lemma stops_of_binary {t : Token} {op : BinaryOperator} {ts : List Token}
    (ht : t.kind.binary? = some op) : Stops op.level.rank (t :: ts) := by
  rw [stops_cons]
  intro op' hop'
  obtain rfl := Option.some.inj (ht.symm.trans hop')
  exact Nat.le_refl _

/-- An operator continues a chain of its level. -/
lemma not_stops_of_binary {t : Token} {op : BinaryOperator} {ts : List Token}
    (ht : t.kind.binary? = some op) : ¬Stops (Phrase.chain op.level).bound (t :: ts) :=
  fun h => Nat.not_succ_le_self _ (stops_cons.mp h op ht)

/-- A closing parenthesis continues nothing. -/
lemma stops_of_rightParen {t : Token} {ts : List Token} (ht : t.kind = .rightParen)
    (bound : Nat) : Stops bound (t :: ts) := by
  simp [stops_cons, ht, TokenKind.binary?]

/-- A phrase ends where the tokens do not continue it. -/
lemma parseOn_stops (source : List Char) {p : Phrase} {passed ts : List Token}
    (hstops : Stops p.bound ts) (e : Expr) (n : Nat) :
    parseOn source p e ⟨passed, ts, n⟩ = .ok (e, ⟨passed, ts, n⟩) := by
  cases p with
  | unary | primary => rfl
  | chain level =>
      cases ts with
      | nil => exact parseRest_nil source passed n level e
      | cons t ts =>
          refine parseRest_stop source passed n ?_ e ts
          rw [Option.eq_none_iff_forall_not_mem]
          intro op hop
          obtain ⟨hbinary, rfl⟩ := TokenKind.binaryAt?_eq_some.mp hop
          exact not_stops_of_binary hbinary hstops

lemma Stops.mono {bound bound' : Nat} {ts : List Token} (h : Stops bound ts)
    (hle : bound' ≤ bound) : Stops bound' ts :=
  fun t ht op hop => Nat.le_trans hle (h t ht op hop)

lemma Phrase.innerBound_le (p : Phrase) : p.innerBound ≤ p.bound := by
  cases p with
  | chain level => exact Nat.le_succ _
  | unary | primary => exact Nat.le_refl _

/-- **Phrases are taken.** In front of a phrase the parser comes to its tree and to the
place after it, and goes on from there, unless the phrase breaks a limit. The
tokens after it are arbitrary but for operators that bind more tightly. -/
lemma Derives.resolved (source : List Char) {p : Phrase} {ts rest : List Token}
    {opens : List Nat} {e : Expr} (h : Derives p ts opens e) (passed : List Token) {n : Nat}
    (hn : n ≤ maxNesting) (hstops : Stops p.innerBound rest) :
    Resolved (Fits n opens e) (parsePhrase source p ⟨passed, ts ++ rest, n⟩)
      (parseOn source p e ⟨ts.reverse ++ passed, rest, n⟩) := by
  induction h generalizing passed rest n with
  | literal hv => exact .inl ⟨fits_literal hn _ _, parsePhrase_literal source passed n hv rest⟩
  | @group opening closing ts opens e ho h hc ih =>
      rw [List.cons_append, parsePhrase_group source passed n ho, fits_group]
      refine (resolved_checkNesting opening ⟨opening :: passed, _, n + 1⟩).bind fun hle => ?_
      have hclosing : Stops (Phrase.chain .equality).bound (closing :: rest) :=
        stops_of_rightParen hc _
      have hinner := ih (opening :: passed) hle (hclosing.mono (Phrase.innerBound_le _))
      rw [parseOn_stops source hclosing] at hinner
      rw [List.append_assoc, List.singleton_append]
      refine hinner.goOn ?_
      simp [hc, Cursor.advance, Cursor.leave, parseOn]
  | @primary ts opens e h ih =>
      obtain ⟨t, ts, rfl⟩ := List.exists_cons_of_ne_nil h.tokens_ne_nil
      have := ih passed hn hstops
      rwa [List.cons_append, ← parsePhrase_unary source passed n h.unary?_head] at this
  | @prefixed t op ts opens e ht h ih =>
      rw [List.cons_append, parsePhrase_prefixed source passed n ht, fits_prefixed]
      refine (resolved_checkNesting t ⟨t :: passed, _, n + 1⟩).bind fun hle => ?_
      refine (ih (t :: passed) hle hstops).bind fun _ => ?_
      refine (resolved_checkDepth t _).goOn ?_
      rw [List.reverse_cons, List.append_assoc]
      rfl
  | @operand level ts opens e h ih =>
      have hoperand : Stops level.operands.bound rest := by rwa [Level.bound_operands]
      have hphrase := ih passed hn (hoperand.mono (Phrase.innerBound_le _))
      rw [parseOn_stops source hoperand] at hphrase
      rw [parsePhrase_chain]
      exact hphrase.goOn rfl
  | @joined level t op ts us opens opens' l r hl ht hop hr ihl ihr =>
      have hoperator : Stops (Phrase.chain level).innerBound (t :: (us ++ rest)) :=
        hop ▸ stops_of_binary ht
      have hoperand : Stops level.operands.bound rest := by rwa [Level.bound_operands]
      have hright := ihr (t :: (ts.reverse ++ passed)) hn
        (hoperand.mono (Phrase.innerBound_le _))
      rw [parseOn_stops source hoperand] at hright
      rw [fits_joined hn, List.append_assoc, List.cons_append]
      refine (ihl passed hn hoperator).trans fun _ => ?_
      rw [parseOn, parseRest_joined source _ n (TokenKind.binaryAt?_eq_some.mpr ⟨ht, hop⟩)]
      refine hright.bind fun _ => (resolved_checkDepth t _).goOn ?_
      simp [parseOn]

/-! ### Whole lists of tokens -/

/-- An expression is answered by its tree, or by a limit that it breaks. -/
lemma Derives.parseTokens (source : List Char) {ts : List Token} {opens : List Nat} {e : Expr}
    (h : Derives (.chain .equality) ts opens e) :
    Resolved (Fits 0 opens e) (parseTokens source ts) (.ok e) := by
  rw [parseTokens_eq source h.tokens_ne_nil]
  have hphrase := h.resolved source [] (n := 0) (Nat.zero_le _) (Stops.nil _)
  rw [List.append_nil, parseOn_stops source (Stops.nil _)] at hphrase
  exact hphrase.goOn rfl

/-- **The parser accepts exactly the grammar within its limits.** The text without
tokens is the blank expression. Of any other list of tokens the parser answers a
tree if and only if the tokens are an expression with that tree, at none of them
more than `maxNesting` parentheses and prefix operators are open, and the tree is
no deeper than `maxDepth`. There is at most one such tree, and an expression that
breaks a limit is answered by the report of a limit at one of its tokens. -/
theorem parseTokens_iff_derives (source : List Char) :
    parseTokens source [] = .ok .blank ∧
      ∀ ts : List Token, ts ≠ [] →
        (∀ e, parseTokens source ts = .ok e ↔
          ∃ opens, Derives (.chain .equality) ts opens e ∧ (∀ k ∈ opens, k ≤ maxNesting) ∧
            e.depth ≤ maxDepth) ∧
        (∀ opens e opens' e', Derives (.chain .equality) ts opens e →
          Derives (.chain .equality) ts opens' e' → e = e') ∧
        ∀ opens e, Derives (.chain .equality) ts opens e →
          ¬ ((∀ k ∈ opens, k ≤ maxNesting) ∧ e.depth ≤ maxDepth) →
          ∃ f, parseTokens source ts = .error f ∧
            f.diagnostic.message.key = "expressions-too-deep" ∧
            ∃ t ∈ ts, f = .tooDeep t maxNesting ∨ f = .tooDeep t maxDepth := by
  refine ⟨if_pos rfl, fun ts hne => ⟨fun e => ⟨fun h => ?_, ?_⟩, ?_, ?_⟩⟩
  · rcases parseTokens_answer source hne with ⟨opens, e', heq, hderives, hfits⟩ | ⟨f, heq, -⟩
    · rw [h, Except.ok.injEq] at heq
      rw [fits_zero] at hfits
      exact ⟨opens, heq ▸ hderives, hfits.1, heq ▸ hfits.2⟩
    · rw [h] at heq
      contradiction
  · rintro ⟨opens, h, hopens, hdepth⟩
    rcases h.parseTokens source with ⟨-, heq⟩ | ⟨hfits, -⟩
    · exact heq
    · exact absurd (fits_zero.mpr ⟨hopens, hdepth⟩) hfits
  · intro opens e opens' e' h h'
    exact (h.unique h').2
  · intro opens e h hbroken
    rw [← fits_zero] at hbroken
    rcases h.parseTokens source with ⟨hfits, -⟩ | ⟨-, t, limit, heq⟩
    · exact absurd hfits hbroken
    · refine ⟨_, heq, rfl, ?_⟩
      rcases parseTokens_answer source hne with ⟨_, _, heq', -⟩ | ⟨f, heq', hblames⟩
      · rw [heq] at heq'
        contradiction
      · rw [heq, Except.error.injEq] at heq'
        obtain ⟨ht, rfl | rfl⟩ := (heq' ▸ hblames).of_tooDeep
        · exact ⟨t, ht, .inl rfl⟩
        · exact ⟨t, ht, .inr rfl⟩

/-- The parser on `true or -(false)`: the theorem gives the tree from its derivation. -/
theorem parseTokens_or_negate :
    [⟨"true", .trueLiteral, 0⟩, ⟨"or", .disjunction, 5⟩, ⟨"-", .minus, 8⟩, ⟨"(", .leftParen, 9⟩,
        ⟨"false", .falseLiteral, 10⟩, ⟨")", .rightParen, 15⟩] ≠ ([] : List Token) ∧
      parseTokens "true or -(false)".toList
          [⟨"true", .trueLiteral, 0⟩, ⟨"or", .disjunction, 5⟩, ⟨"-", .minus, 8⟩,
            ⟨"(", .leftParen, 9⟩, ⟨"false", .falseLiteral, 10⟩, ⟨")", .rightParen, 15⟩] =
        .ok (.binary .or "or" (.literal (.boolean true) ⟨0, 4⟩)
          (.unary .negate "-" (.literal (.boolean false) ⟨9, 16⟩) ⟨8, 16⟩ 2) ⟨0, 16⟩ 3) := by
  refine ⟨List.cons_ne_nil _ _, ?_⟩
  refine (((parseTokens_iff_derives _).2 _ (List.cons_ne_nil _ _)).1 _).mpr
    ⟨[0] ++ 0 :: [1, 2, 2, 2], Derives.loosen (p := .chain .disjunction) ?_, by decide, by decide⟩
  have hleft : Derives .unary [⟨"true", .trueLiteral, 0⟩] [0]
      (.literal (.boolean true) ⟨0, 4⟩) := .primary (.literal rfl)
  have hinner : Derives .unary [⟨"false", .falseLiteral, 10⟩] [0]
      (.literal (.boolean false) ⟨10, 15⟩) := .primary (.literal rfl)
  have hgroup : Derives .unary
      [⟨"(", .leftParen, 9⟩, ⟨"false", .falseLiteral, 10⟩, ⟨")", .rightParen, 15⟩] [1, 1, 1]
      (.literal (.boolean false) ⟨9, 16⟩) := .primary (.group rfl hinner.loosen rfl)
  have hright : Derives .unary
      [⟨"-", .minus, 8⟩, ⟨"(", .leftParen, 9⟩, ⟨"false", .falseLiteral, 10⟩,
        ⟨")", .rightParen, 15⟩] [1, 2, 2, 2]
      (.unary .negate "-" (.literal (.boolean false) ⟨9, 16⟩) ⟨8, 16⟩ 2) := .prefixed rfl hgroup
  exact .joined (hleft.toChain .disjunction) rfl rfl (hright.toOperand .disjunction)

end Condition
