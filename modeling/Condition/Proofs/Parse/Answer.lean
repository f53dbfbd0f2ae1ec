/-
What the parser says about the tokens in front of it: either it takes a phrase of
the grammar, as many tokens as belong to it, or it reports a fault, and then the
fault is found where reading the tokens stops.

* `Fits`: a phrase keeps both limits at a level of nesting;
* `Stops`: the tokens after a phrase do not continue it;
* `Blames`: a fault explains why tokens, read from a place on, are not all of an
  expression, or which limit they break;
* `Blames.unique`: limits apart, there is one such fault only;
* `Answer`, `parsePhrase_answer`: what is true of every call of the parser;
* `parsePhrase_eq_ok`: so a call that does not fail has taken a phrase.
-/
import Mathlib.Tactic.Tauto
import Condition.Proofs.Grammar.Viable
import Condition.Proofs.Parse.Phrase

namespace Condition

open Reading

/-! ### Phrases that are taken -/

/-- With `n` parentheses and prefix operators open around it, the phrase keeps both
limits. -/
def Fits (n : Nat) (opens : List Nat) (e : Expr) : Prop :=
  (∀ k ∈ opens, n + k ≤ maxNesting) ∧ e.depth ≤ maxDepth

section Limits

variable {n : Nat} {opens opens' : List Nat} {e l r : Expr}

lemma fits_zero : Fits 0 opens e ↔ (∀ k ∈ opens, k ≤ maxNesting) ∧ e.depth ≤ maxDepth := by
  simp only [Fits, Nat.zero_add]

/-- A phrase keeps the limits with fewer open around it. -/
lemma Fits.mono {m : Nat} (h : Fits m opens e) (hle : n ≤ m) : Fits n opens e :=
  ⟨fun k hk => Nat.le_trans (Nat.add_le_add_right hle k) (h.1 k hk), h.2⟩

lemma fits_literal (hn : n ≤ maxNesting) (v : Value) (s : Span) : Fits n [0] (.literal v s) := by
  refine ⟨?_, by simp [Expr.depth, maxDepth]⟩
  intro k hk
  rw [List.mem_singleton.mp hk]
  exact hn

lemma forall_mem_map_succ :
    (∀ k ∈ opens.map (· + 1), n + k ≤ maxNesting) ↔ ∀ k ∈ opens, n + 1 + k ≤ maxNesting := by
  simp only [List.mem_map, forall_exists_index, and_imp, forall_apply_eq_imp_iff₂]
  exact forall₂_congr fun k _ => by rw [Nat.add_assoc, Nat.add_comm 1]

/-- A group keeps the limits if there is room for its parenthesis and the inside keeps
them. -/
lemma fits_group (s : Span) :
    Fits n (1 :: (opens.map (· + 1) ++ [1])) (e.withSpan s) ↔
      n + 1 ≤ maxNesting ∧ Fits (n + 1) opens e := by
  rw [Fits, Fits, Expr.depth_withSpan, List.forall_mem_cons, List.forall_mem_append,
    forall_mem_map_succ, List.forall_mem_singleton]
  tauto

/-- A prefix operator keeps the limits if there is room for it, its operand keeps them
and the tree is not too deep. -/
lemma fits_prefixed (op : UnaryOperator) (symbol : String) (s : Span) :
    Fits n (1 :: opens.map (· + 1)) (.prefixed op symbol e s) ↔
      n + 1 ≤ maxNesting ∧ Fits (n + 1) opens e ∧
        (Expr.prefixed op symbol e s).depth ≤ maxDepth := by
  rw [Fits, Fits, List.forall_mem_cons, forall_mem_map_succ, Expr.depth_prefixed]
  constructor
  · rintro ⟨⟨hn, hopens⟩, hdepth⟩
    exact ⟨hn, ⟨hopens, by omega⟩, hdepth⟩
  · rintro ⟨hn, ⟨hopens, -⟩, hdepth⟩
    exact ⟨⟨hn, hopens⟩, hdepth⟩

/-- A chain with one more operand keeps the limits if both parts do and the tree is not
too deep. -/
lemma fits_joined (hn : n ≤ maxNesting) (op : BinaryOperator) (symbol : String) (s : Span) :
    Fits n (opens ++ 0 :: opens') (.joined op symbol l r s) ↔
      Fits n opens l ∧ Fits n opens' r ∧ (Expr.joined op symbol l r s).depth ≤ maxDepth := by
  rw [Fits, Fits, Fits, List.forall_mem_append, List.forall_mem_cons, Expr.depth_joined]
  constructor
  · rintro ⟨⟨hl, -, hr⟩, hdepth⟩
    exact ⟨⟨hl, by omega⟩, ⟨hr, by omega⟩, hdepth⟩
  · rintro ⟨⟨hl, -⟩, ⟨hr, -⟩, hdepth⟩
    exact ⟨⟨hl, hn, hr⟩, hdepth⟩

end Limits

/-- The tokens do not begin with an operator whose rank is below the bound. -/
def Stops (bound : Nat) (ts : List Token) : Prop :=
  ∀ t ∈ ts.head?, ∀ op, t.kind.binary? = some op → bound ≤ op.level.rank

lemma Stops.nil (bound : Nat) : Stops bound [] := by
  simp [Stops]

lemma stops_cons {bound : Nat} {t : Token} {ts : List Token} :
    Stops bound (t :: ts) ↔ ∀ op, t.kind.binary? = some op → bound ≤ op.level.rank := by
  simp [Stops]

/-- Tokens that do not continue the operands of a level, nor begin with an operator of
the level, do not continue a chain of the level. -/
lemma Stops.succ {level : Level} {t : Token} {ts : List Token} (h : Stops level.rank (t :: ts))
    (ht : t.kind.binaryAt? level = none) : Stops (level.rank + 1) (t :: ts) := by
  rw [stops_cons] at h ⊢
  intro op hop
  have hne : level.rank ≠ op.level.rank := by
    intro heq
    rw [TokenKind.binaryAt?_eq_some.mpr ⟨hop, (Level.rank_inj heq).symm⟩] at ht
    contradiction
  have := h op hop
  omega

/-- What does not continue an expression cannot follow it, unless it closes a
parenthesis. -/
lemma step_of_stops {d : Nat} {t : Token} {ts : List Token}
    (hstops : Stops (Phrase.chain .equality).bound (t :: ts))
    (hclosing : t.kind = .rightParen → d = 0) : (complete d).step t = none := by
  rw [Option.eq_none_iff_forall_not_mem]
  intro r hr
  rcases step_complete.mp hr with ⟨hbinary, -⟩ | ⟨hkind, n, hd, -⟩
  · obtain ⟨op, hop⟩ := Option.isSome_iff_exists.mp hbinary
    have := stops_cons.mp hstops op hop
    cases hlevel : op.level <;> rw [hlevel] at this <;> contradiction
  · rw [hclosing hkind] at hd
    contradiction

/-! ### Faults that are reported -/

/-- **Why reading fails.** From the place `r` on, with the tokens `passed` behind it,
the tokens are not all of an expression, and the fault says so: it names the first
token that cannot stand where it stands, or the last token if an operand is wanted
at the end, or a parenthesis if one is open there. Or it names a limit. -/
inductive Blames (source : List Char) : Reading → List Token → List Token → Fault → Prop where
  | unexpected {r r' : Reading} {passed front back : List Token} {t : Token}
      (hr : r.run front = some r') (ht : r'.step t = none) :
      Blames source r passed (front ++ t :: back) (.unexpected t .forward)
  | missing {r : Reading} {d : Nat} {passed ts : List Token} (hr : r.run ts = some (wanted d)) :
      Blames source r passed ts (Cursor.missing source ⟨ts.reverse ++ passed, [], 0⟩)
  | unclosed {r : Reading} {d : Nat} {passed ts : List Token}
      (hr : r.run ts = some (complete (d + 1))) :
      Blames source r passed ts (.unclosed (Text.unclosedParen source))
  | tooDeep {r : Reading} {passed ts : List Token} {t : Token} {limit : Nat} (ht : t ∈ ts)
      (hlimit : limit = maxNesting ∨ limit = maxDepth) :
      Blames source r passed ts (.tooDeep t limit)

/-- A fault of the tokens from a place on is one of the tokens that lead to the place
and go on there. -/
lemma Blames.after {source : List Char} {r r' : Reading} {passed ts us : List Token} {f : Fault}
    (hr : r.run ts = some r') (h : Blames source r' (ts.reverse ++ passed) us f) :
    Blames source r passed (ts ++ us) f := by
  cases h with
  | unexpected hr' ht =>
      rw [← List.append_assoc]
      exact .unexpected (run_append_eq_some.mpr ⟨r', hr, hr'⟩) ht
  | missing hr' =>
      rw [← List.append_assoc, ← List.reverse_append]
      exact .missing (run_append_eq_some.mpr ⟨r', hr, hr'⟩)
  | unclosed hr' => exact .unclosed (run_append_eq_some.mpr ⟨r', hr, hr'⟩)
  | tooDeep ht hlimit => exact .tooDeep (List.mem_append_right _ ht) hlimit

/-- That something is missing at a place is a fault of the grammar. -/
lemma kind_missing (source : List Char) (c : Cursor) :
    (Cursor.missing source c).diagnostic.kind = .parse := by
  rw [Cursor.missing]
  split <;> rfl

lemma missing_ne_tooDeep (source : List Char) (c : Cursor) (t : Token) (limit : Nat) :
    Cursor.missing source c ≠ .tooDeep t limit := by
  intro h
  have hkind := kind_missing source c
  rw [h] at hkind
  contradiction

/-- The parser only blames the grammar or a limit. -/
lemma Blames.kind_cases {source : List Char} {r : Reading} {passed ts : List Token} {f : Fault}
    (h : Blames source r passed ts f) :
    f.diagnostic.kind = .parse ∨ ∃ t limit, f = .tooDeep t limit := by
  cases h with
  | unexpected | unclosed => exact .inl rfl
  | missing => exact .inl (kind_missing ..)
  | tooDeep => exact .inr ⟨_, _, rfl⟩

/-- The token that a fault of nesting or depth names is one of the tokens. -/
lemma Blames.of_tooDeep {source : List Char} {r : Reading} {passed ts : List Token} {t : Token}
    {limit : Nat} (h : Blames source r passed ts (.tooDeep t limit)) :
    t ∈ ts ∧ (limit = maxNesting ∨ limit = maxDepth) := by
  generalize hf : Fault.tooDeep t limit = f at h
  cases h with
  | unexpected | unclosed => contradiction
  | missing => exact (missing_ne_tooDeep _ _ _ _ hf.symm).elim
  | tooDeep ht hlimit =>
      obtain ⟨rfl, rfl⟩ := Fault.tooDeep.inj hf
      exact ⟨ht, hlimit⟩

/-- Tokens with a fault of the grammar are not all of an expression. -/
lemma Blames.run_ne {source : List Char} {r : Reading} {passed ts : List Token} {f : Fault}
    (h : Blames source r passed ts f) (hkind : f.diagnostic.kind = .parse) :
    r.run ts ≠ some (complete 0) := by
  cases h with
  | unexpected hr ht =>
      rw [run_stuck hr ht]
      nofun
  | missing hr | unclosed hr =>
      rw [hr]
      nofun
  | tooDeep => cases hkind

/-- **There is one fault of the grammar** at most. -/
lemma Blames.unique {source : List Char} {r : Reading} {passed ts : List Token} {f f' : Fault}
    (h : Blames source r passed ts f) (h' : Blames source r passed ts f')
    (hkind : f.diagnostic.kind = .parse) (hkind' : f'.diagnostic.kind = .parse) : f = f' := by
  cases h with
  | unexpected hr ht =>
      rename_i front back t
      generalize hts : front ++ t :: back = ts at h'
      cases h' with
      | unexpected hr' ht' => rw [stuck_unique hr ht hr' ht' hts]
      | missing hr' | unclosed hr' =>
          rw [← hts, run_stuck hr ht] at hr'
          cases hr'
      | tooDeep => cases hkind'
  | missing hr =>
      cases h' with
      | unexpected hr' ht' =>
          rw [run_stuck hr' ht'] at hr
          cases hr
      | missing => rfl
      | unclosed hr' =>
          rw [hr] at hr'
          cases hr'
      | tooDeep => cases hkind'
  | unclosed hr =>
      cases h' with
      | unexpected hr' ht' =>
          rw [run_stuck hr' ht'] at hr
          cases hr
      | missing hr' =>
          rw [hr] at hr'
          cases hr'
      | unclosed => rfl
      | tooDeep => cases hkind'
  | tooDeep => cases hkind

/-! ### Every call of the parser -/

/-- What a call of the parser for a phrase may answer. -/
inductive Answer (source : List Char) (p : Phrase) (c : Cursor) :
    Except Fault (Expr × Cursor) → Prop where
  /-- The phrase, and the place after it. -/
  | parsed {ts rest : List Token} {opens : List Nat} {e : Expr} (hc : c.rest = ts ++ rest)
      (h : Derives p ts opens e) (hfits : Fits c.nesting opens e) (hstops : Stops p.bound rest) :
      Answer source p c (.ok (e, ⟨ts.reverse ++ c.passed, rest, c.nesting⟩))
  /-- A fault, however many parentheses are open at the place. -/
  | failed {f : Fault} (h : ∀ d, Blames source (wanted d) c.passed c.rest f) :
      Answer source p c (.error f)

lemma Answer.of_eq {source : List Char} {p : Phrase} {c : Cursor} {opens : List Nat} {e : Expr}
    {r : Except Fault (Expr × Cursor)} (ts rest : List Token)
    (hr : r = .ok (e, ⟨ts.reverse ++ c.passed, rest, c.nesting⟩)) (hc : c.rest = ts ++ rest)
    (h : Derives p ts opens e) (hfits : Fits c.nesting opens e) (hstops : Stops p.bound rest) :
    Answer source p c r :=
  hr ▸ .parsed hc h hfits hstops

section Calls

variable {source : List Char} {passed ts : List Token} {n : Nat} {t : Token}

/-- A fault behind one token. -/
lemma Blames.cons {r r' : Reading} {f : Fault} (hr : r.step t = some r')
    (h : Blames source r' (t :: passed) ts f) : Blames source r passed (t :: ts) f :=
  Blames.after (show r.run [t] = some r' by rw [run_cons, hr, Option.bind_some, run_nil]) h

/-- A prefix operator and what follows it. -/
lemma answer_prefixed {op : UnaryOperator} (ht : t.kind.unary? = some op)
    (h : n + 1 ≤ maxNesting → Answer source .unary ⟨t :: passed, ts, n + 1⟩
      (parsePhrase source .unary ⟨t :: passed, ts, n + 1⟩)) :
    Answer source .unary ⟨passed, t :: ts, n⟩
      (parsePhrase source .unary ⟨passed, t :: ts, n⟩) := by
  rw [parsePhrase_prefixed source passed n ht, bind_checkNesting]
  split
  · exact .failed fun d => .tooDeep List.mem_cons_self (.inl rfl)
  next hn =>
  replace h := h (Nat.le_of_not_lt hn)
  generalize parsePhrase source .unary ⟨t :: passed, ts, n + 1⟩ = r at h
  cases h with
  | failed h => exact .failed fun d => (h d).cons (step_of_unary ht)
  | @parsed us rest opens e hc h hfits hstops =>
      rw [Except.bind, bind_checkDepth]
      split
      · exact .failed fun d => .tooDeep List.mem_cons_self (.inr rfl)
      next hdepth =>
      refine .of_eq (t :: us) rest ?_ (by rw [List.cons_append, ← hc]) (.prefixed ht h) ?_ hstops
      · rw [List.reverse_cons, List.append_assoc]
        rfl
      · exact (fits_prefixed ..).mpr ⟨Nat.le_of_not_lt hn, hfits, Nat.le_of_not_lt hdepth⟩

/-- A parenthesis and what follows it. -/
lemma answer_group (ht : t.kind = .leftParen)
    (h : n + 1 ≤ maxNesting → Answer source (.chain .equality) ⟨t :: passed, ts, n + 1⟩
      (parsePhrase source (.chain .equality) ⟨t :: passed, ts, n + 1⟩)) :
    Answer source .primary ⟨passed, t :: ts, n⟩
      (parsePhrase source .primary ⟨passed, t :: ts, n⟩) := by
  rw [parsePhrase_group source passed n ht, bind_checkNesting]
  split
  · exact .failed fun d => .tooDeep List.mem_cons_self (.inl rfl)
  next hn =>
  replace h := h (Nat.le_of_not_lt hn)
  generalize parsePhrase source (.chain .equality) ⟨t :: passed, ts, n + 1⟩ = r at h
  cases h with
  | failed h => exact .failed fun d => (h (d + 1)).cons (step_of_leftParen ht)
  | @parsed us rest opens e hc h hfits hstops =>
      obtain rfl : ts = us ++ rest := hc
      have hinner : ∀ d, (wanted d).run (t :: us) = some (complete (d + 1)) := fun d => by
        rw [run_cons, step_of_leftParen ht, Option.bind_some, h.run]
      cases rest with
      | nil =>
          rw [List.append_nil]
          exact .failed fun d => .unclosed (hinner d)
      | cons closing rest =>
          change Answer source _ _ (if closing.kind = .rightParen then _ else _)
          split
          · next hclosing =>
            refine .of_eq (t :: (us ++ [closing])) rest ?_ (by simp) (.group ht h hclosing)
              ((fits_group _).mpr ⟨Nat.le_of_not_lt hn, hfits⟩) (by simp [Stops, Phrase.bound])
            simp [Cursor.advance, Cursor.leave]
          · next hclosing =>
            refine .failed fun d => ?_
            change Blames source _ _ (t :: us ++ closing :: rest) _
            exact .unexpected (hinner d) (step_of_stops hstops fun h => absurd h hclosing)

/-- A literal, or a token that cannot stand there. -/
lemma answer_literal (ht : t.kind ≠ .leftParen) (hu : t.kind.unary? = none)
    (hn : n ≤ maxNesting) :
    Answer source .primary ⟨passed, t :: ts, n⟩
      (parsePhrase source .primary ⟨passed, t :: ts, n⟩) := by
  cases hv : t.value? with
  | some v =>
      rw [parsePhrase_literal source passed n hv]
      have hstops : Stops Phrase.primary.bound ts := by simp [Stops, Phrase.bound]
      exact .of_eq [t] ts rfl rfl (.literal hv) (fits_literal hn v _) hstops
  | none =>
      rw [parsePhrase_unexpected source passed n ht hv]
      refine .failed fun d => ?_
      change Blames source _ _ ([] ++ t :: ts) _
      refine .unexpected (run_nil _) ?_
      rw [Option.eq_none_iff_forall_not_mem]
      intro r hr
      rcases step_wanted.mp hr with ⟨h, -⟩ | ⟨h, -⟩ | ⟨h, -⟩
      · exact ht h
      · simp [hu] at h
      · simp [hv] at h

/-- **A chain after an operand.** If its operands are parsed right, so is the chain:
the tokens `us` are the part of it that has been read. -/
lemma answer_rest {level : Level} {us : List Token} {opens : List Nat} {left : Expr}
    (hoperand : ∀ c : Cursor, c.rest.length < ts.length → c.nesting ≤ maxNesting →
      Answer source level.operands c (parsePhrase source level.operands c))
    (hn : n ≤ maxNesting) (hleft : Derives (.chain level) us opens left) (hfits : Fits n opens left)
    (hstops : Stops level.rank ts) :
    Answer source (.chain level) ⟨passed, us ++ ts, n⟩
      (parseRest source level left ⟨us.reverse ++ passed, ts, n⟩) := by
  induction hlen : ts.length using Nat.strongRecOn generalizing ts us opens left with
  | _ m ih =>
  cases ts with
  | nil =>
      rw [parseRest_nil]
      exact .parsed rfl hleft hfits (.nil _)
  | cons t ts =>
      cases ht : t.kind.binaryAt? level with
      | none =>
          rw [parseRest_stop source _ n ht]
          exact .parsed rfl hleft hfits (hstops.succ ht)
      | some op =>
          obtain ⟨hop, hlevel⟩ := TokenKind.binaryAt?_eq_some.mp ht
          rw [parseRest_joined source _ n ht]
          have hanswer := hoperand ⟨t :: (us.reverse ++ passed), ts, n⟩ (by simp) hn
          generalize parsePhrase source level.operands ⟨t :: (us.reverse ++ passed), ts, n⟩ = r
            at hanswer
          cases hanswer with
          | failed h =>
              refine .failed fun d => Blames.after (hleft.run d) ?_
              exact (h d).cons (step_of_binary hop)
          | @parsed vs rest opens' right hc hright hfits' hstops' =>
              obtain rfl : ts = vs ++ rest := hc
              rw [Except.bind, bind_checkDepth]
              split
              · exact .failed fun d => .tooDeep (by simp) (.inr rfl)
              next hdepth =>
              rw [Level.bound_operands] at hstops'
              have hshorter : rest.length < (t :: (vs ++ rest)).length := by
                rw [List.length_cons, List.length_append]
                omega
              have := ih rest.length (hlen ▸ hshorter)
                (fun c hc => hoperand c (Nat.lt_trans hc hshorter))
                (.joined hleft hop hlevel hright)
                ((fits_joined hn ..).mpr ⟨hfits, hfits', Nat.le_of_not_lt hdepth⟩) hstops' rfl
              simpa using this

end Calls

/-- The order in which phrases call for each other at one place. -/
def Phrase.rank : Phrase → Nat
  | primary => 0
  | unary => 1
  | chain level => level.rank + 2

lemma Level.rank_operands_lt (level : Level) : level.operands.rank < (Phrase.chain level).rank := by
  cases level <;> decide

/-- The operands of a level are unary expressions or chains. -/
lemma Level.operands_ne_primary (level : Level) : level.operands ≠ .primary := by
  cases level <;> decide

/-- A primary expression is a unary one. -/
lemma Answer.unary {source : List Char} {c : Cursor} {r : Except Fault (Expr × Cursor)}
    (h : Answer source .primary c r) : Answer source .unary c r := by
  cases h with
  | parsed hc h hfits hstops => exact .parsed hc (.primary h) hfits hstops
  | failed h => exact .failed h

/-- **Every call of the parser** takes a phrase of the grammar that keeps the limits, and
all that belongs to it, or names a fault that explains why it cannot. A primary
expression is only looked for where no prefix operator stands. -/
theorem parsePhrase_answer (source : List Char) (p : Phrase) (hp : p ≠ .primary) (c : Cursor)
    (hn : c.nesting ≤ maxNesting) : Answer source p c (parsePhrase source p c) := by
  match p, c with
  | .primary, _ => exact absurd rfl hp
  | .unary, ⟨passed, [], n⟩ =>
      rw [parsePhrase_unary_nil]
      exact .failed fun d => .missing (run_nil _)
  | .unary, ⟨passed, t :: ts, n⟩ =>
      cases hu : t.kind.unary? with
      | some op =>
          exact answer_prefixed hu fun hn' =>
            parsePhrase_answer source .unary hp ⟨t :: passed, ts, n + 1⟩ hn'
      | none =>
          rw [parsePhrase_unary source passed n hu]
          by_cases ht : t.kind = .leftParen
          · have hgroup := answer_group ht fun hn' =>
              parsePhrase_answer source (.chain .equality) (by simp) ⟨t :: passed, ts, n + 1⟩ hn'
            exact hgroup.unary
          · exact (answer_literal ht hu hn).unary
  | .chain level, ⟨passed, ts, n⟩ =>
      rw [parsePhrase_chain]
      have hoperand := level.operands_ne_primary
      have hanswer := parsePhrase_answer source level.operands hoperand ⟨passed, ts, n⟩ hn
      have hlater : ∀ c : Cursor, c.rest.length < ts.length → c.nesting ≤ maxNesting →
          Answer source level.operands c (parsePhrase source level.operands c) :=
        fun c _ hn' => parsePhrase_answer source level.operands hoperand c hn'
      generalize parsePhrase source level.operands ⟨passed, ts, n⟩ = r at hanswer
      cases hanswer with
      | failed h => exact .failed h
      | @parsed us rest opens e hc h hfits hstops =>
          obtain rfl : ts = us ++ rest := hc
          rw [Level.bound_operands] at hstops
          have hpos := List.length_pos_iff.mpr h.tokens_ne_nil
          exact answer_rest (fun c hc => hlater c (by rw [List.length_append]; omega)) hn
            (.operand h) hfits hstops
termination_by (c.rest.length, p.rank)
decreasing_by
  · exact Prod.Lex.left _ _ (by simp)
  · exact Prod.Lex.left _ _ (by simp)
  · exact Prod.Lex.right _ (Level.rank_operands_lt level)
  · exact Prod.Lex.left _ _ (by assumption)

/-- What a call of the parser has taken, if it has not failed. -/
lemma parsePhrase_eq_ok {source : List Char} {p : Phrase} (hp : p ≠ .primary) {c : Cursor}
    (hn : c.nesting ≤ maxNesting) {e : Expr} {next : Cursor}
    (h : parsePhrase source p c = .ok (e, next)) :
    ∃ us rest opens, c.rest = us ++ rest ∧ Derives p us opens e ∧ Fits c.nesting opens e ∧
      Stops p.bound rest ∧ next = ⟨us.reverse ++ c.passed, rest, c.nesting⟩ := by
  have hanswer := parsePhrase_answer source p hp c hn
  rw [h] at hanswer
  cases hanswer with
  | parsed hc hderives hfits hstops => exact ⟨_, _, _, hc, hderives, hfits, hstops, rfl⟩

/-! ### Whole lists of tokens -/

/-- A parse of some tokens is the parse of an expression with nothing left over. -/
lemma parseTokens_eq (source : List Char) {ts : List Token} (hne : ts ≠ []) :
    parseTokens source ts =
      (parsePhrase source (.chain .equality) ⟨[], ts, 0⟩).bind fun p =>
        match p.2.rest with
        | [] => .ok p.1
        | t :: _ => .error (.unexpected t .forward) := by
  rw [parseTokens, if_neg hne, parsePhrase, Parsed.bind_bare]
  rfl

/-- **Every parse** of some tokens answers the tree of an expression that keeps the
limits, or names a fault that explains why there is none. -/
theorem parseTokens_answer (source : List Char) {ts : List Token} (hne : ts ≠ []) :
    (∃ opens e, parseTokens source ts = .ok e ∧ Derives (.chain .equality) ts opens e ∧
        Fits 0 opens e) ∨
      ∃ f, parseTokens source ts = .error f ∧ Blames source (wanted 0) [] ts f := by
  rw [parseTokens_eq source hne]
  have hanswer := parsePhrase_answer source (.chain .equality) (by simp) ⟨[], ts, 0⟩ (Nat.zero_le _)
  generalize parsePhrase source (.chain .equality) ⟨[], ts, 0⟩ = r at hanswer
  cases hanswer with
  | failed h => exact .inr ⟨_, rfl, h 0⟩
  | @parsed us rest opens e hc h hfits hstops =>
      obtain rfl : ts = us ++ rest := hc
      cases rest with
      | nil =>
          exact .inl ⟨opens, e, rfl, by rwa [List.append_nil], hfits⟩
      | cons t rest =>
          exact .inr ⟨_, rfl, .unexpected (h.run 0) (step_of_stops hstops fun _ => rfl)⟩

end Condition
