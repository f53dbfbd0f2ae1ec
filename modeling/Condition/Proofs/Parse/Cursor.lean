/-
Where the calls of the parser leave the cursor.

* `Calls`, `calls_wellFounded`: which calls a call makes, and that this comes to an end:
  each has fewer tokens in front of it, or is for a part of the phrase at the same place;
* `parsePhrase_taken`, `parseGroup_taken`: a call that does not fail has taken some tokens
  that it takes wherever they stand, and has closed what it opened;
* `Routine.run_discipline`: so every function of the parser moves on over tokens of the list,
  keeps the level of nesting, sees nothing of the tokens before it, and leaves no operator
  that is its own.
-/
import Condition.Proofs.Parse.Accept
import Condition.Proofs.Parse.Alike

namespace Condition

/-! ### Calls -/

/-- The functions of the parser. -/
inductive Routine where
  /-- The function of a phrase: of one of the levels, of unary or of primary expressions. -/
  | phrase (p : Phrase)
  /-- The function of expressions in parentheses. -/
  | group

/-- Runs a function of the parser. -/
def Routine.run (source : List Char) : Routine → Cursor → Except Fault (Expr × Cursor)
  | phrase p, c => parsePhrase source p c
  | group, c => parseGroup source c

/-- What the parser has to do at a place: a function, or a round of the loop of a chain, with
the tree of the part of the chain that has been read. -/
inductive Task where
  | routine (r : Routine)
  | round (level : Level) (left : Expr)

/-- **The calls that a call makes**, and the rounds of loops. The second task makes the
first. -/
inductive Calls (source : List Char) : Task × Cursor → Task × Cursor → Prop where
  /-- A chain begins with an operand. -/
  | operand (level : Level) (c : Cursor) :
      Calls source (.routine (.phrase level.operands), c) (.routine (.phrase (.chain level)), c)
  /-- The loop of a chain begins behind the operand. -/
  | enter {level : Level} {c next : Cursor} {e : Expr}
      (h : parsePhrase source level.operands c = .ok (e, next)) :
      Calls source (.round level e, next) (.routine (.phrase (.chain level)), c)
  /-- A round takes one more operand behind an operator of the level. -/
  | right {level : Level} {t : Token} {op : BinaryOperator}
      (ht : t.kind.binaryAt? level = some op) (left : Expr) (passed ts : List Token) (n : Nat) :
      Calls source (.routine (.phrase level.operands), ⟨t :: passed, ts, n⟩)
        (.round level left, ⟨passed, t :: ts, n⟩)
  /-- The next round begins behind that operand, with a tree of both. -/
  | again {level : Level} {t : Token} {op : BinaryOperator} {passed ts : List Token} {n : Nat}
      {right : Expr} {next : Cursor} (ht : t.kind.binaryAt? level = some op) (left whole : Expr)
      (h : parsePhrase source level.operands ⟨t :: passed, ts, n⟩ = .ok (right, next)) :
      Calls source (.round level whole, next) (.round level left, ⟨passed, t :: ts, n⟩)
  /-- A prefix operator has a unary expression behind it. -/
  | prefixed {t : Token} {op : UnaryOperator} (ht : t.kind.unary? = some op)
      (passed ts : List Token) (n : Nat) :
      Calls source (.routine (.phrase .unary), ⟨t :: passed, ts, n + 1⟩)
        (.routine (.phrase .unary), ⟨passed, t :: ts, n⟩)
  /-- A unary expression without a prefix operator is a primary one. -/
  | primary (c : Cursor) :
      Calls source (.routine (.phrase .primary), c) (.routine (.phrase .unary), c)
  /-- A primary expression may stand in parentheses. -/
  | group (c : Cursor) : Calls source (.routine .group, c) (.routine (.phrase .primary), c)
  /-- Behind the opening parenthesis there is an expression. -/
  | inner (t : Token) (passed ts : List Token) (n : Nat) :
      Calls source (.routine (.phrase (.chain .equality)), ⟨t :: passed, ts, n + 1⟩)
        (.routine .group, ⟨passed, t :: ts, n⟩)

/-- The order in which tasks are made at one place. -/
def Task.rank : Task → Nat
  | routine (.phrase p) => p.rank + 1
  | routine .group => 0
  | round _ _ => 0

/-- What is less in each call: the tokens in front of it, or its rank at the same place. -/
def Task.measure (x : Task × Cursor) : Nat × Nat := (x.2.rest.length, x.1.rank)

lemma Calls.measure_lt {source : List Char} {x y : Task × Cursor} (h : Calls source x y) :
    Prod.Lex (· < ·) (· < ·) (Task.measure x) (Task.measure y) := by
  cases h with
  | operand level c => exact .right _ (Nat.succ_lt_succ level.rank_operands_lt)
  | enter h => exact .left _ _ (parsePhrase_fewer h)
  | right | prefixed | inner => exact .left _ _ (Nat.lt_succ_self _)
  | again _ _ _ h => exact .left _ _ (Nat.lt_succ_of_lt (parsePhrase_fewer h))
  | primary c => exact .right _ Nat.one_lt_two
  | group c => exact .right _ Nat.zero_lt_one

/-- **Calls come to an end**: a call has fewer tokens in front of it than the one that makes it,
or it is at the same place and of lower rank. -/
theorem calls_wellFounded (source : List Char) : WellFounded (Calls source) :=
  Subrelation.wf Calls.measure_lt
    (InvImage.wf Task.measure (Prod.lex Nat.lt_wfRel Nat.lt_wfRel).wf)

/-! ### Tokens that are taken -/

/-- **The tokens `us` are taken** in front of `rest`, with the tree `e`: wherever they stand,
and whatever the source text is, the function moves on behind them, and the level of nesting
is the one that it was. -/
def Routine.Takes (r : Routine) (n : Nat) (us rest : List Token) (e : Expr) : Prop :=
  ∀ (source : List Char) (passed : List Token),
    r.run source ⟨passed, us ++ rest, n⟩ = .ok (e, ⟨us.reverse ++ passed, rest, n⟩)

/-- A phrase that keeps the limits is taken in front of tokens that do not continue it. -/
lemma Derives.takes {p : Phrase} {us rest : List Token} {opens : List Nat} {e : Expr} {n : Nat}
    (h : Derives p us opens e) (hn : n ≤ maxNesting) (hfits : Fits n opens e)
    (hstops : Stops p.bound rest) : (Routine.phrase p).Takes n us rest e := by
  intro source passed
  have hresolved := h.resolved source passed hn (hstops.mono p.innerBound_le)
  rw [parseOn_stops source hstops] at hresolved
  rcases hresolved with ⟨-, heq⟩ | ⟨hbroken, -⟩
  · exact heq
  · exact absurd hfits hbroken

/-- No prefix operator begins a primary expression. -/
lemma parsePhrase_primary_error {source : List Char} {t : Token} {op : UnaryOperator}
    (h : t.kind.unary? = some op) (passed ts : List Token) (n : Nat) :
    parsePhrase source .primary ⟨passed, t :: ts, n⟩ = .error (.unexpected t .forward) := by
  refine parsePhrase_unexpected source passed n ?_ ?_ ts
  · intro hkind
    rw [hkind] at h
    contradiction
  · cases hkind : t.kind <;> simp_all [Token.value?, TokenKind.unary?]

/-- A call for a primary expression takes one. -/
lemma derives_primary_of_parsePhrase {source : List Char} {c : Cursor}
    (hn : c.nesting ≤ maxNesting) {e : Expr} {next : Cursor}
    (h : parsePhrase source .primary c = .ok (e, next)) :
    ∃ us rest opens, c.rest = us ++ rest ∧ Derives .primary us opens e ∧
      Fits c.nesting opens e ∧ Stops Phrase.primary.bound rest ∧
      next = ⟨us.reverse ++ c.passed, rest, c.nesting⟩ := by
  obtain ⟨passed, tokens, n⟩ := c
  cases tokens with
  | nil =>
      rw [parsePhrase_primary_nil] at h
      cases h
  | cons t ts =>
      cases ht : t.kind.unary? with
      | some op =>
          rw [parsePhrase_primary_error ht] at h
          cases h
      | none =>
          rw [← parsePhrase_unary source passed n ht] at h
          obtain ⟨us, rest, opens, hc, hderives, hfits, hstops, hnext⟩ :=
            parsePhrase_eq_ok (by simp) hn h
          refine ⟨us, rest, opens, hc, ?_, hfits, hstops, hnext⟩
          rcases hderives.unary_cases with hprimary | ⟨t', op, ts', os, e', rfl, -, -, hop, -⟩
          · exact hprimary
          · obtain ⟨rfl, -⟩ := List.cons.inj hc
            rw [ht] at hop
            cases hop

/-- **A phrase is taken** by every call that does not fail. -/
lemma parsePhrase_taken {source : List Char} {p : Phrase} {c : Cursor}
    (hn : c.nesting ≤ maxNesting) {e : Expr} {next : Cursor}
    (h : parsePhrase source p c = .ok (e, next)) :
    ∃ us rest, us ≠ [] ∧ c.rest = us ++ rest ∧
      next = ⟨us.reverse ++ c.passed, rest, c.nesting⟩ ∧ Stops p.bound rest ∧
      (Routine.phrase p).Takes c.nesting us rest e := by
  obtain ⟨us, rest, opens, hc, hderives, hfits, hstops, rfl⟩ :
      ∃ us rest opens, c.rest = us ++ rest ∧ Derives p us opens e ∧ Fits c.nesting opens e ∧
        Stops p.bound rest ∧ next = ⟨us.reverse ++ c.passed, rest, c.nesting⟩ := by
    by_cases hp : p = .primary
    · subst hp
      exact derives_primary_of_parsePhrase hn h
    · exact parsePhrase_eq_ok hp hn h
  exact ⟨us, rest, hderives.tokens_ne_nil, hc, rfl, hstops, hderives.takes hn hfits hstops⟩

/-- An expression in parentheses is taken if its inside is. -/
lemma Routine.Takes.group {t closing : Token} {us rest : List Token} {n : Nat} {e : Expr}
    (h : (Routine.phrase (.chain .equality)).Takes (n + 1) us (closing :: rest) e)
    (hn : n + 1 ≤ maxNesting) (hclosing : closing.kind = .rightParen) :
    Routine.group.Takes n (t :: (us ++ [closing])) rest
      (e.withSpan ⟨t.offset, closing.span.stop⟩) := by
  intro source passed
  have hinner := h source (t :: passed)
  rw [run] at hinner
  rw [run, List.cons_append, List.append_assoc, List.singleton_append, parseGroup_cons,
    bind_checkNesting, if_neg (Nat.not_lt.mpr hn), hinner]
  simp [Except.bind, hclosing, Cursor.advance, Cursor.leave]

/-- **An expression in parentheses is taken** by every call that does not fail. -/
lemma parseGroup_taken {source : List Char} {c : Cursor} {e : Expr} {next : Cursor}
    (h : parseGroup source c = .ok (e, next)) :
    ∃ us rest, us ≠ [] ∧ c.rest = us ++ rest ∧
      next = ⟨us.reverse ++ c.passed, rest, c.nesting⟩ ∧
      Routine.group.Takes c.nesting us rest e := by
  obtain ⟨passed, tokens, n⟩ := c
  cases tokens with
  | nil =>
      rw [parseGroup_nil] at h
      cases h
  | cons t ts =>
      rw [parseGroup_cons, bind_checkNesting] at h
      split at h
      · cases h
      next hn =>
      obtain ⟨⟨inner, place⟩, hinner, hclose⟩ := bind_eq_ok h
      replace hn := Nat.le_of_not_lt hn
      obtain ⟨us, rest, -, hc, rfl, -, htakes⟩ := parsePhrase_taken hn hinner
      obtain rfl : ts = us ++ rest := hc
      cases rest with
      | nil => cases hclose
      | cons closing rest =>
          change (if closing.kind = .rightParen then _ else _) = _ at hclose
          split at hclose
          · next hclosing =>
            cases hclose
            refine ⟨t :: (us ++ [closing]), rest, List.cons_ne_nil _ _, by simp, ?_,
              htakes.group hn hclosing⟩
            simp [Cursor.advance, Cursor.leave]
          · cases hclose

/-- **Every function** of the parser takes tokens whenever it does not fail. -/
lemma Routine.taken {source : List Char} {r : Routine} {c : Cursor}
    (hn : c.nesting ≤ maxNesting) {e : Expr} {next : Cursor}
    (h : r.run source c = .ok (e, next)) :
    ∃ us rest, us ≠ [] ∧ c.rest = us ++ rest ∧
      next = ⟨us.reverse ++ c.passed, rest, c.nesting⟩ ∧ r.Takes c.nesting us rest e ∧
      ∀ level, r = .phrase (.chain level) → Stops (level.rank + 1) rest := by
  cases r with
  | group =>
      obtain ⟨us, rest, hne, hc, hnext, htakes⟩ := parseGroup_taken h
      exact ⟨us, rest, hne, hc, hnext, htakes, fun _ hr => by cases hr⟩
  | phrase p =>
      obtain ⟨us, rest, hne, hc, hnext, hstops, htakes⟩ := parsePhrase_taken hn h
      refine ⟨us, rest, hne, hc, hnext, htakes, fun level hr => ?_⟩
      cases hr
      exact hstops

/-! ### Places in a list of tokens -/

/-- The place before the token with the index `current` of a list. -/
def Cursor.place (tokens : List Token) (current nesting : Nat) : Cursor :=
  ⟨(tokens.take current).reverse, tokens.drop current, nesting⟩

/-- The place behind tokens that stand at a place of a list. -/
lemma Cursor.place_add {tokens us rest : List Token} {current : Nat} (nesting : Nat)
    (h : tokens.drop current = us ++ rest) :
    Cursor.place tokens (current + us.length) nesting =
      ⟨us.reverse ++ (tokens.take current).reverse, rest, nesting⟩ := by
  rw [Cursor.place, List.take_add, h, List.take_left, List.reverse_append, ← List.drop_drop, h,
    List.drop_left]

/-- What does not continue a chain begins with no operator of its level or a tighter one. -/
lemma Stops.binaryAt?_eq_none {level level' : Level} {ts : List Token} {t : Token}
    (h : Stops (level.rank + 1) ts) (ht : ts.head? = some t) (hlevel : level'.rank ≤ level.rank) :
    t.kind.binaryAt? level' = none := by
  rw [Option.eq_none_iff_forall_not_mem]
  intro op hop
  obtain ⟨hbinary, rfl⟩ := TokenKind.binaryAt?_eq_some.mp hop
  have hrank := h t ht op hbinary
  omega

/-- **The discipline of the parser.** At every place of a list of tokens, with no more open than
may be, the calls that a function of the parser makes come to an end. If it then answers an
expression, it has moved on over at least one token and not past the end, the level of nesting
is the one that it was, and what it answers and how far it moves on depends neither on the
tokens before the place nor on the source text. Behind a chain there is no operator of its
level, nor of a tighter one. -/
theorem Routine.run_discipline (source : List Char) (r : Routine) (tokens : List Token)
    {current nesting : Nat} (hcurrent : current ≤ tokens.length) (hnesting : nesting ≤ maxNesting) :
    Acc (Calls source) (.routine r, Cursor.place tokens current nesting) ∧
      ∀ e next, r.run source (Cursor.place tokens current nesting) = .ok (e, next) →
        ∃ k, 0 < k ∧ current + k ≤ tokens.length ∧
          next = Cursor.place tokens (current + k) nesting ∧
          (∀ source' tokens' current', tokens'.drop current' = tokens.drop current →
            r.run source' (Cursor.place tokens' current' nesting) =
              .ok (e, Cursor.place tokens' (current' + k) nesting)) ∧
          ∀ level t, r = .phrase (.chain level) → tokens[current + k]? = some t →
            ∀ level', level'.rank ≤ level.rank → t.kind.binaryAt? level' = none := by
  refine ⟨(calls_wellFounded source).apply _, fun e next h => ?_⟩
  obtain ⟨us, rest, hne, hc, rfl, htakes, hstops⟩ := Routine.taken hnesting h
  replace hc : tokens.drop current = us ++ rest := hc
  have hlength := congrArg List.length hc
  rw [List.length_drop, List.length_append] at hlength
  refine ⟨us.length, List.length_pos_iff.mpr hne, by omega, (Cursor.place_add nesting hc).symm,
    fun source' tokens' current' hdrop => ?_, fun level t hr ht level' hlevel => ?_⟩
  · have hc' : tokens'.drop current' = us ++ rest := hdrop.trans hc
    rw [Cursor.place_add nesting hc', Cursor.place, hc']
    exact htakes source' _
  · refine (hstops level hr).binaryAt?_eq_none ?_ hlevel
    rw [← ht, ← List.head?_drop, ← List.drop_drop, hc, List.drop_left]

/-- The conjunction inside of `(true and false or true)`, with no room for further nesting: it
ends before the disjunction, and is the same without the parenthesis in front of it. -/
theorem Routine.run_discipline_conjunction :
    let tokens : List Token :=
      [⟨"(", .leftParen, 0⟩, ⟨"true", .trueLiteral, 1⟩, ⟨"and", .conjunction, 6⟩,
        ⟨"false", .falseLiteral, 10⟩, ⟨"or", .disjunction, 16⟩, ⟨"true", .trueLiteral, 19⟩,
        ⟨")", .rightParen, 23⟩]
    let e : Expr := .binary .and "and" (.literal (.boolean true) ⟨1, 5⟩)
      (.literal (.boolean false) ⟨10, 15⟩) ⟨1, 15⟩ 2
    (1 ≤ tokens.length ∧ 64 ≤ maxNesting) ∧
      (Routine.phrase (.chain .conjunction)).run "(true and false or true)".toList
        (Cursor.place tokens 1 64) = .ok (e, Cursor.place tokens 4 64) ∧
      ∃ k, 0 < k ∧ 1 + k ≤ tokens.length ∧
        (Routine.phrase (.chain .conjunction)).run [] (Cursor.place (tokens.drop 1) 0 64) =
          .ok (e, Cursor.place (tokens.drop 1) (0 + k) 64) := by
  intro tokens e
  have hleft : Derives .unary [⟨"true", .trueLiteral, 1⟩] [0] (.literal (.boolean true) ⟨1, 5⟩) :=
    .primary (.literal rfl)
  have hright : Derives .unary [⟨"false", .falseLiteral, 10⟩] [0]
      (.literal (.boolean false) ⟨10, 15⟩) := .primary (.literal rfl)
  have hboth : Derives (.chain .conjunction) ((tokens.drop 1).take 3) [0, 0, 0] e :=
    .joined (hleft.toChain .conjunction) rfl rfl (hright.toOperand .conjunction)
  have hstops : Stops (Phrase.chain .conjunction).bound (tokens.drop 4) := by
    refine stops_cons.mpr ?_
    rintro op ⟨⟩
    decide
  have hrun : (Routine.phrase (.chain .conjunction)).run "(true and false or true)".toList
      (Cursor.place tokens 1 64) = .ok (e, Cursor.place tokens 4 64) :=
    hboth.takes (Nat.le_refl _) ⟨by decide, by decide⟩ hstops _ (tokens.take 1)
  obtain ⟨k, hpos, hle, -, hsame, -⟩ :=
    (Routine.run_discipline _ _ tokens (by decide) (by decide)).2 _ _ hrun
  exact ⟨by decide, hrun, k, hpos, hle, hsame [] (tokens.drop 1) 0 rfl⟩

end Condition
