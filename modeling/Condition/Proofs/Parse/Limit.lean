/-
The limits are reported where they are crossed.

* `Heads`: a token is the operator of a phrase, at the root of its tree;
* `Exceeds`: a token crosses a limit: it opens one parenthesis or prefix operator too many, or
  it heads a tree that is one node too deep;
* `Exceeds.limit_lt`: this takes more tokens than the limit allows;
* `parsePhrase_exceeds`: every call of the parser that reports a limit reports such a token;
* `parseTokens_ne_tooDeep`, `parseTokens_eq_error_iff`: so the fault of few tokens is that of
  the grammar;
* `parseTokens_limits`: the limits that trees keep, and those that are reported.
-/
import Condition.Proofs.Grammar.Depth
import Condition.Proofs.Grammar.Open
import Condition.Proofs.Parse.Part

namespace Condition

/-! ### Tokens that cross a limit -/

/-- The operands of the root of a tree. -/
def Expr.operands : Expr → List Expr
  | empty _ => []
  | literal _ _ => []
  | unary _ _ operand _ _ => [operand]
  | binary _ _ left right _ _ => [left, right]

@[simp] lemma Expr.operands_prefixed (op : UnaryOperator) (symbol : String) (e : Expr) (s : Span) :
    (Expr.prefixed op symbol e s).operands = [e] := rfl

@[simp] lemma Expr.operands_joined (op : BinaryOperator) (symbol : String) (l r : Expr) (s : Span) :
    (Expr.joined op symbol l r s).operands = [l, r] := rfl

/-- **The operator of a phrase.** The token `t` is an operator, the tokens `us` are it and its
operands, and `e` is their tree. -/
inductive Heads (t : Token) : Phrase → List Token → Expr → Prop where
  | prefixed {op : UnaryOperator} {us : List Token} {opens : List Nat} {e : Expr}
      (ht : t.kind.unary? = some op) (h : Derives .unary us opens e) :
      Heads t .unary (t :: us) (.prefixed op t.lexeme e ⟨t.offset, e.span.stop⟩)
  | joined {level : Level} {op : BinaryOperator} {us vs : List Token} {opens opens' : List Nat}
      {l r : Expr} (hl : Derives (.chain level) us opens l) (ht : t.kind.binary? = some op)
      (hop : op.level = level) (hr : Derives level.operands vs opens' r) :
      Heads t (.chain level) (us ++ t :: vs)
        (.joined op t.lexeme l r ⟨l.span.start, r.span.stop⟩)

/-- The tokens are a phrase with the tree. -/
lemma Heads.derives {t : Token} {q : Phrase} {us : List Token} {e : Expr} (h : Heads t q us e) :
    ∃ opens, Derives q us opens e := by
  cases h with
  | prefixed ht h => exact ⟨_, .prefixed ht h⟩
  | joined hl ht hop hr => exact ⟨_, .joined hl ht hop hr⟩

/-- **A token crosses a limit** in some tokens that begin with a phrase `p`, where `s` is open
before them. It is the first one at which more parentheses and prefix operators are open than
allowed, and then it is one more; or it heads a part of the phrase whose tree is one node too
deep, the trees of its operands not being too deep. -/
inductive Exceeds (p : Phrase) (s : List Opening) (ts : List Token) (t : Token) : Nat → Prop where
  | nesting (front back : List Token) (hts : ts = front ++ t :: back)
      (hfront : ∀ m ∈ openCounts s front, m ≤ maxNesting)
      (ht : openAt (front.foldl openBehind s) t = maxNesting + 1) : Exceeds p s ts t maxNesting
  | depth (front us back : List Token) {q : Phrase} {e : Expr}
      (hts : ts = front ++ (us ++ back)) (hq : Ahead p front q) (he : Heads t q us e)
      (hback : Stops q.innerBound back) (hdepth : e.depth = maxDepth + 1)
      (hoperands : ∀ n ∈ e.operands, n.depth ≤ maxDepth) : Exceeds p s ts t maxDepth

/-- What crosses a limit in a part that begins behind the tokens `us` does so in the whole. -/
lemma Exceeds.after {p q : Phrase} {s s' : List Opening} {ts : List Token} {t : Token}
    {limit : Nat} (us : List Token) (h : Exceeds q s' ts t limit) (hs : us.foldl openBehind s = s')
    (hus : ∀ m ∈ openCounts s us, m ≤ maxNesting)
    (hahead : ∀ {front r}, Ahead q front r → Ahead p (us ++ front) r) :
    Exceeds p s (us ++ ts) t limit := by
  subst hs
  cases h with
  | nesting front back hts hfront ht =>
      refine .nesting (us ++ front) back (by rw [hts, List.append_assoc]) ?_ ?_
      · rw [openCounts_append]
        exact List.forall_mem_append.mpr ⟨hus, hfront⟩
      · rwa [List.foldl_append]
  | depth front vs back hts hq he hback hdepth hoperands =>
      exact .depth (us ++ front) vs back (by rw [hts, List.append_assoc]) (hahead hq) he hback
        hdepth hoperands

/-- What crosses a limit behind one token does so with the token. -/
lemma Exceeds.behind {p q : Phrase} {s : List Opening} {ts : List Token} {t u : Token}
    {limit : Nat} (h : Exceeds q (openBehind s t) ts u limit) (ht : openAt s t ≤ maxNesting)
    (hahead : ∀ {front r}, Ahead q front r → Ahead p (t :: front) r) :
    Exceeds p s (t :: ts) u limit := by
  refine h.after [t] rfl ?_ hahead
  rw [openCounts, openCounts, List.forall_mem_singleton]
  exact ht

/-- What crosses a limit in an operand behind an operator does so in the chain. -/
lemma Exceeds.joined {level : Level} {op : BinaryOperator} {s : List Opening} {us ts : List Token}
    {opens : List Nat} {l : Expr} {t u : Token} {limit : Nat}
    (h : Exceeds level.operands s ts u limit) (hcompleted : completed s = s)
    (hl : Derives (.chain level) us opens l) (hfits : Fits s.length opens l)
    (hs : s.length ≤ maxNesting) (ht : t.kind.binary? = some op) (hop : op.level = level) :
    Exceeds (.chain level) s (us ++ t :: ts) u limit := by
  obtain ⟨hcounts, hbehind⟩ := hl.openCounts_eq s fun _ _ => hcompleted
  rw [List.append_cons]
  refine h.after (us ++ [t]) ?_ ?_ fun hahead => ?_
  · rw [List.foldl_append, hbehind, hcompleted]
    exact (open_of_binary ht).2
  · rw [openCounts_append, hcounts, hbehind, hcompleted, openCounts, (open_of_binary ht).1,
      openCounts, List.forall_mem_append, List.forall_mem_map, List.forall_mem_singleton]
    exact ⟨hfits.1, hs⟩
  · rw [List.append_assoc]
    exact .joined hl ht hop hahead

/-- An operator whose operands are not too deep, but whose tree is, heads a tree that is one node
too deep. -/
lemma Heads.exceeds {q : Phrase} {us back : List Token} {t : Token} {e : Expr}
    (h : Heads t q us e) (hdeep : maxDepth < e.depth)
    (hoperands : ∀ n ∈ e.operands, n.depth ≤ maxDepth) (hback : Stops q.innerBound back)
    (s : List Opening) : Exceeds q s (us ++ back) t maxDepth := by
  have hdepth : e.depth ≤ maxDepth + 1 := by
    cases h with
    | @prefixed op us opens operand ht h =>
        have hle : operand.depth ≤ maxDepth := by simpa using hoperands
        rw [Expr.depth_prefixed]
        omega
    | @joined level op us vs opens opens' l r hl ht hop hr =>
        have hle : l.depth ≤ maxDepth ∧ r.depth ≤ maxDepth := by simpa using hoperands
        rw [Expr.depth_joined]
        omega
  exact .depth [] us back rfl (.refl q) h hback (by omega) hoperands

/-- **A limit is crossed by many tokens** only: there are more than it allows, with what is open
before them. -/
lemma Exceeds.limit_lt {p : Phrase} {s : List Opening} {ts : List Token} {t : Token} {limit : Nat}
    (h : Exceeds p s ts t limit) : limit < s.length + ts.length := by
  cases h with
  | nesting front back hts hfront ht =>
      have hopen := openAt_foldl_le s front t
      rw [hts, List.length_append, List.length_cons]
      omega
  | depth front us back hts hq he hback hdepth hoperands =>
      obtain ⟨opens, hderives⟩ := he.derives
      have hus := hderives.depth_le_length
      rw [hts, List.length_append, List.length_append]
      omega

/-- The limit of nesting is the lower one. -/
lemma Exceeds.maxNesting_le {p : Phrase} {s : List Opening} {ts : List Token} {t : Token}
    {limit : Nat} (h : Exceeds p s ts t limit) : maxNesting ≤ limit := by
  cases h with
  | nesting => exact Nat.le_refl _
  | depth => decide

section Calls

variable {source : List Char} {s : List Opening} {passed ts : List Token} {n : Nat}
  {t u : Token} {limit : Nat}

/-- A token that opens one too many. -/
lemma exceeds_nesting {p : Phrase} (hs : s.length = n) (hn : n ≤ maxNesting)
    (ht : openAt s t = s.length + 1) (hfull : maxNesting < n + 1) :
    Exceeds p s (t :: ts) t maxNesting := by
  refine .nesting [] ts rfl nofun ?_
  show openAt s t = maxNesting + 1
  omega

/-- A prefix operator and what follows it. -/
lemma exceeds_prefixed {op : UnaryOperator} (ht : t.kind.unary? = some op) (hs : s.length = n)
    (hn : n ≤ maxNesting)
    (ih : n + 1 ≤ maxNesting →
      parsePhrase source .unary ⟨t :: passed, ts, n + 1⟩ = .error (.tooDeep u limit) →
      Exceeds .unary (.operator :: s) ts u limit)
    (h : parsePhrase source .unary ⟨passed, t :: ts, n⟩ = .error (.tooDeep u limit)) :
    Exceeds .unary s (t :: ts) u limit := by
  obtain ⟨hat, hbehind⟩ := open_of_unary (s := s) ht
  rw [parsePhrase_prefixed source passed n ht, bind_checkNesting] at h
  split at h
  · next hfull =>
    cases h
    exact exceeds_nesting hs hn hat hfull
  next hroom =>
  have hroom : n + 1 ≤ maxNesting := Nat.le_of_not_lt hroom
  rcases bind_eq_error h with hinside | ⟨⟨operand, next⟩, hoperand, hwhole⟩
  · have hpart := ih hroom hinside
    rw [← hbehind] at hpart
    exact hpart.behind (by rwa [hat, hs]) (.prefixed ht)
  · obtain ⟨us, rest, opens, hrest, hderives, hfits, -, -⟩ :=
      parsePhrase_eq_ok (p := .unary) nofun hroom hoperand
    obtain rfl : ts = us ++ rest := hrest
    rw [bind_checkDepth] at hwhole
    split at hwhole
    · next hdeep =>
      cases hwhole
      have hle : operand.depth ≤ maxDepth := hfits.2
      exact (Heads.prefixed ht hderives).exceeds hdeep (by simpa using hle)
        (by simp [Stops, Phrase.innerBound]) s
    · cases hwhole

/-- A parenthesis and what follows it. -/
lemma exceeds_group (ht : t.kind = .leftParen) (hs : s.length = n) (hn : n ≤ maxNesting)
    (ih : n + 1 ≤ maxNesting →
      parsePhrase source (.chain .equality) ⟨t :: passed, ts, n + 1⟩ =
        .error (.tooDeep u limit) →
      Exceeds (.chain .equality) (.paren :: s) ts u limit)
    (h : parsePhrase source .primary ⟨passed, t :: ts, n⟩ = .error (.tooDeep u limit)) :
    Exceeds .primary s (t :: ts) u limit := by
  obtain ⟨hat, hbehind⟩ := open_of_leftParen (s := s) ht
  rw [parsePhrase_group source passed n ht, bind_checkNesting] at h
  split at h
  · next hfull =>
    cases h
    exact exceeds_nesting hs hn hat hfull
  next hroom =>
  have hroom : n + 1 ≤ maxNesting := Nat.le_of_not_lt hroom
  rcases bind_eq_error h with hinside | ⟨⟨inner, next⟩, -, hclosing⟩
  · have hpart := ih hroom hinside
    rw [← hbehind] at hpart
    exact hpart.behind (by rwa [hat, hs]) (.group ht)
  · -- behind the inside only a missing parenthesis is reported
    obtain ⟨before, rest, k⟩ := next
    cases rest with
    | nil => cases hclosing
    | cons closing rest =>
        change (if closing.kind = .rightParen then _ else _) = _ at hclosing
        split at hclosing <;> cases hclosing

/-- A literal, or a token that cannot stand there, crosses no limit. -/
lemma literal_ne_tooDeep (ht : t.kind ≠ .leftParen) :
    parsePhrase source .primary ⟨passed, t :: ts, n⟩ ≠ .error (.tooDeep u limit) := by
  cases hv : t.value? with
  | some v =>
      rw [parsePhrase_literal source passed n hv]
      exact nofun
  | none =>
      rw [parsePhrase_unexpected source passed n ht hv]
      exact nofun

/-- **A chain after an operand.** If its operands report the tokens that cross a limit, so does
the chain: the tokens `us` are the part of it that has been read. -/
lemma exceeds_rest {level : Level} {us : List Token} {opens : List Nat} {left : Expr}
    (hs : s.length = n) (hcompleted : completed s = s) (hn : n ≤ maxNesting)
    (hoperand : ∀ c : Cursor, c.rest.length < ts.length → c.nesting = n →
      parsePhrase source level.operands c = .error (.tooDeep u limit) →
      Exceeds level.operands s c.rest u limit)
    (hleft : Derives (.chain level) us opens left) (hfits : Fits n opens left)
    (h : parseRest source level left ⟨us.reverse ++ passed, ts, n⟩ = .error (.tooDeep u limit)) :
    Exceeds (.chain level) s (us ++ ts) u limit := by
  induction hlen : ts.length using Nat.strongRecOn generalizing ts us opens left with
  | _ m ih =>
  cases ts with
  | nil =>
      rw [parseRest_nil] at h
      cases h
  | cons t ts =>
      cases ht : t.kind.binaryAt? level with
      | none =>
          rw [parseRest_stop source _ n ht] at h
          cases h
      | some op =>
          obtain ⟨hop, hlevel⟩ := TokenKind.binaryAt?_eq_some.mp ht
          rw [parseRest_joined source _ n ht] at h
          rcases bind_eq_error h with hinside | ⟨⟨right, next⟩, hright, hwhole⟩
          · have hpart := hoperand _ (Nat.lt_succ_self _) rfl hinside
            exact hpart.joined hcompleted hleft (hs ▸ hfits) (hs ▸ hn) hop hlevel
          · obtain ⟨vs, rest, opens', hrest, hderives, hfits', hstops, rfl⟩ :=
              parsePhrase_eq_ok level.operands_ne_primary
                (c := ⟨t :: (us.reverse ++ passed), ts, n⟩) hn hright
            obtain rfl : ts = vs ++ rest := hrest
            rw [Level.bound_operands] at hstops
            rw [bind_checkDepth] at hwhole
            split at hwhole
            · next hdeep =>
              obtain ⟨rfl, rfl⟩ := Fault.tooDeep.inj (Except.error.inj hwhole)
              have hl : left.depth ≤ maxDepth := hfits.2
              have hr : right.depth ≤ maxDepth := hfits'.2
              rw [← List.cons_append, ← List.append_assoc]
              exact (Heads.joined hleft hop hlevel hderives).exceeds hdeep
                (by simpa using And.intro hl hr) hstops s
            · next hdepth =>
              have hshorter : rest.length < (t :: (vs ++ rest)).length := by
                rw [List.length_cons, List.length_append]
                omega
              have := ih rest.length (hlen ▸ hshorter)
                (fun c hc => hoperand c (Nat.lt_trans hc hshorter))
                (.joined hleft hop hlevel hderives)
                ((fits_joined hn ..).mpr ⟨hfits, hfits', Nat.le_of_not_lt hdepth⟩)
                (by simpa using hwhole) rfl
              simpa using this

end Calls

/-- **Every call of the parser** that reports a limit names a token that crosses it, where the
stack `s` of what is open is as high as the parser's count. -/
theorem parsePhrase_exceeds (source : List Char) (p : Phrase) (hp : p ≠ .primary) (c : Cursor)
    (s : List Opening) (hs : s.length = c.nesting)
    (hcompleted : ∀ level, p = .chain level → completed s = s) (hn : c.nesting ≤ maxNesting)
    {u : Token} {limit : Nat} (h : parsePhrase source p c = .error (.tooDeep u limit)) :
    Exceeds p s c.rest u limit := by
  match p, c with
  | .primary, _ => exact absurd rfl hp
  | .unary, ⟨passed, [], n⟩ =>
      rw [parsePhrase_unary_nil] at h
      exact (missing_ne_tooDeep _ _ _ _ (Except.error.inj h)).elim
  | .unary, ⟨passed, t :: ts, n⟩ =>
      cases hu : t.kind.unary? with
      | some op =>
          exact exceeds_prefixed hu hs hn (fun hn' h' =>
            parsePhrase_exceeds source .unary hp ⟨t :: passed, ts, n + 1⟩ (.operator :: s)
              (congrArg (· + 1) hs) nofun hn' h') h
      | none =>
          rw [parsePhrase_unary source passed n hu] at h
          by_cases ht : t.kind = .leftParen
          · have hgroup := exceeds_group ht hs hn (fun hn' h' =>
              parsePhrase_exceeds source (.chain .equality) nofun ⟨t :: passed, ts, n + 1⟩
                (.paren :: s) (congrArg (· + 1) hs) (fun _ _ => rfl) hn' h') h
            exact hgroup.after [] rfl nofun .primary
          · exact absurd h (literal_ne_tooDeep ht)
  | .chain level, ⟨passed, ts, n⟩ =>
      have hoperand := level.operands_ne_primary
      have hs' := hcompleted level rfl
      rw [parsePhrase_chain] at h
      have hlater : ∀ c : Cursor, c.rest.length < ts.length → c.nesting = n →
          parsePhrase source level.operands c = .error (.tooDeep u limit) →
          Exceeds level.operands s c.rest u limit := fun c _ hc h' =>
        parsePhrase_exceeds source level.operands hoperand c s (hs.trans hc.symm)
          (fun _ _ => hs') (Nat.le_trans (Nat.le_of_eq hc) hn) h'
      rcases bind_eq_error h with hfirst | ⟨⟨first, next⟩, hfirst, hrest⟩
      · have hpart := parsePhrase_exceeds source level.operands hoperand ⟨passed, ts, n⟩ s hs
          (fun _ _ => hs') hn hfirst
        exact hpart.after [] rfl nofun .operand
      · obtain ⟨us, rest, opens, hc, hderives, hfits, -, rfl⟩ :=
          parsePhrase_eq_ok hoperand hn hfirst
        obtain rfl : ts = us ++ rest := hc
        have hpos := List.length_pos_iff.mpr hderives.tokens_ne_nil
        exact exceeds_rest hs hs' hn
          (fun c hc => hlater c (by rw [List.length_append]; omega)) (.operand hderives) hfits hrest
termination_by (c.rest.length, p.rank)
decreasing_by
  · exact Prod.Lex.left _ _ (by simp)
  · exact Prod.Lex.left _ _ (by simp)
  · exact Prod.Lex.left _ _ (by assumption)
  · exact Prod.Lex.right _ (Level.rank_operands_lt level)

/-! ### Whole lists of tokens -/

/-- The parser reports tokens that cross a limit. -/
lemma parseTokens_exceeds {source : List Char} {ts : List Token} {t : Token} {limit : Nat}
    (h : parseTokens source ts = .error (.tooDeep t limit)) :
    Exceeds (.chain .equality) [] ts t limit := by
  have hne : ts ≠ [] := by
    rintro rfl
    cases h
  rw [parseTokens_eq source hne] at h
  rcases bind_eq_error h with hphrase | ⟨⟨e, passed, rest, n⟩, -, hrest⟩
  · exact parsePhrase_exceeds source (.chain .equality) nofun ⟨[], ts, 0⟩ [] rfl
      (fun _ _ => rfl) (Nat.zero_le _) hphrase
  · cases rest <;> cases hrest

/-- **Few tokens cross no limit.** -/
lemma parseTokens_ne_tooDeep {source : List Char} {ts : List Token}
    (hlength : ts.length ≤ maxNesting) (t : Token) (limit : Nat) :
    parseTokens source ts ≠ .error (.tooDeep t limit) := by
  intro h
  have hexceeds := parseTokens_exceeds h
  have hle := hexceeds.maxNesting_le
  have hlt := hexceeds.limit_lt
  rw [List.length_nil] at hlt
  omega

/-- **The fault of few tokens** is that of the grammar. -/
lemma parseTokens_eq_error_iff {source : List Char} {ts : List Token} {f : Fault} (hne : ts ≠ [])
    (hlength : ts.length ≤ maxNesting) :
    parseTokens source ts = .error f ↔
      Blames source (.wanted 0) [] ts f ∧ f.diagnostic.kind = .parse := by
  rcases parseTokens_answer source hne with ⟨opens, e, heq, hderives, -⟩ | ⟨f', heq, hblames⟩
  · rw [heq]
    exact ⟨nofun, fun ⟨h, hkind⟩ => absurd (hderives.run 0) (h.run_ne hkind)⟩
  · have hkind : f'.diagnostic.kind = .parse := by
      refine hblames.kind_cases.resolve_right ?_
      rintro ⟨t, limit, rfl⟩
      exact parseTokens_ne_tooDeep hlength t limit heq
    rw [heq, Except.error.injEq]
    constructor
    · rintro rfl
      exact ⟨hblames, hkind⟩
    · rintro ⟨h, hkind'⟩
      exact hblames.unique h hkind hkind'

/-- One prefix operator too many is reported. -/
lemma parsePhrase_prefixes (source : List Char) {t : Token} {op : UnaryOperator}
    (ht : t.kind.unary? = some op) (passed : List Token) (n k : Nat) (hk : n + k = maxNesting) :
    parsePhrase source .unary ⟨passed, List.replicate (k + 1) t, n⟩ =
      .error (.tooDeep t maxNesting) := by
  induction k generalizing passed n with
  | zero =>
      have hfull : maxNesting < n + 1 := by omega
      rw [List.replicate_succ, parsePhrase_prefixed source passed n ht, bind_checkNesting,
        if_pos hfull]
  | succ k ih =>
      have hroom : ¬maxNesting < n + 1 := by omega
      rw [List.replicate_succ, parsePhrase_prefixed source passed n ht, bind_checkNesting,
        if_neg hroom, ih (t :: passed) (n + 1) (by omega)]
      rfl

/-- **The limits are enforced where they are crossed.** Every node of a tree that the parser
answers records the number of nodes on a longest path from it to a leaf, and the tree keeps the
limit of depth. If the parser reports a limit, then it is that of nesting, at the first token at
which more parentheses and prefix operators are open than allowed, and then it is one more; or
it is that of depth, at the operator of a subtree that is one node too deep, none of whose
operands is too deep. -/
theorem parseTokens_limits (source : List Char) (ts : List Token) :
    (∀ e, parseTokens source ts = .ok e →
      (∀ n ∈ e.nodes, IsGreatest {k | ∃ path, n.LeafPath path ∧ path.length = k} n.depth) ∧
        e.depth ≤ maxDepth) ∧
      ∀ f, parseTokens source ts = .error f → f.diagnostic.kind = .limit →
        (∃ k, ∃ hk : k < ts.length, f = .tooDeep ts[k] maxNesting ∧
          (openCounts [] ts)[k]? = some (maxNesting + 1) ∧
          ∀ j < k, ∀ m ∈ (openCounts [] ts)[j]?, m ≤ maxNesting) ∨
        ∃ t front us back q e, f = .tooDeep t maxDepth ∧ ts = front ++ (us ++ back) ∧
          Heads t q us e ∧ e.depth = maxDepth + 1 ∧ (∀ n ∈ e.operands, n.depth ≤ maxDepth) ∧
          Ahead (.chain .equality) front q ∧ Stops q.innerBound back ∧
          ∀ opens e', Derives (.chain .equality) ts opens e' → ∃ s, e.withSpan s ∈ e'.nodes := by
  have hblank : parseTokens source [] = .ok .blank := if_pos rfl
  refine ⟨fun e h => ?_, fun f h hkind => ?_⟩
  · by_cases hne : ts = []
    · rw [hne, hblank] at h
      obtain rfl := Except.ok.inj h
      refine ⟨fun n hn => ?_, by decide⟩
      rw [List.mem_singleton.mp hn]
      exact Expr.isGreatest_height _
    · rcases parseTokens_answer source hne with ⟨opens, e', heq, hderives, hfits⟩ | ⟨f, heq, -⟩
      · rw [h] at heq
        obtain rfl := Except.ok.inj heq
        exact ⟨fun n hn => hderives.isGreatest_depth hn, hfits.2⟩
      · rw [h] at heq
        contradiction
  · have hne : ts ≠ [] := by
      rintro rfl
      rw [hblank] at h
      contradiction
    -- what is reported is a limit, and it is found in the expression
    obtain ⟨t, limit, rfl⟩ : ∃ t limit, f = .tooDeep t limit := by
      rcases parseTokens_answer source hne with ⟨_, _, heq, -⟩ | ⟨f', heq, hblames⟩
      · rw [h] at heq
        contradiction
      · rw [h] at heq
        obtain rfl := Except.error.inj heq
        refine hblames.kind_cases.resolve_left fun hparse => ?_
        rw [hkind] at hparse
        contradiction
    cases parseTokens_exceeds h with
    | nesting front back hts hfront ht =>
        obtain rfl : ts = front ++ t :: back := hts
        have hlength := length_openCounts [] front
        refine .inl ⟨front.length, by simp, by simp, ?_, fun j hj m hm => ?_⟩
        · rw [openCounts_append, List.getElem?_append_right (Nat.le_of_eq hlength), hlength,
            Nat.sub_self, openCounts, ht]
          rfl
        · rw [openCounts_append, List.getElem?_append_left (hlength ▸ hj)] at hm
          exact hfront m (List.mem_of_getElem? hm)
    | @depth front us back q e hts hq he hback hdepth hoperands =>
        obtain ⟨opens, hderives⟩ := he.derives
        refine .inr ⟨t, front, us, back, q, e, rfl, hts, he, hdepth, hoperands, hq, hback,
          fun opens' e' he' => ?_⟩
        exact hq.exists_node hderives he' (hts.symm.trans (List.append_nil ts).symm) hback
          (Stops.nil _)

/-- The theorem at 65 prefix operators: one of them has 65 open at it, and none before it. -/
theorem parseTokens_limits_prefixes :
    parseTokens [] (List.replicate 65 ⟨"!", .not, 0⟩) =
        .error (.tooDeep ⟨"!", .not, 0⟩ maxNesting) ∧
      ∃ k : Nat, (openCounts [] (List.replicate 65 ⟨"!", .not, 0⟩))[k]? = some 65 ∧
        ∀ j < k, ∀ m ∈ (openCounts [] (List.replicate 65 ⟨"!", .not, 0⟩))[j]?, m ≤ 64 := by
  have hphrase := parsePhrase_prefixes [] (t := ⟨"!", .not, 0⟩) rfl [] 0 64 rfl
  have herror : parseTokens [] (List.replicate 65 ⟨"!", .not, 0⟩) =
      .error (.tooDeep ⟨"!", .not, 0⟩ maxNesting) := by
    have hne : List.replicate 65 (⟨"!", .not, 0⟩ : Token) ≠ [] := by simp
    rw [parseTokens_eq _ hne]
    simp only [parsePhrase_chain, Level.operands, Level.tighter]
    rw [hphrase]
    rfl
  refine ⟨herror, ?_⟩
  rcases (parseTokens_limits _ _).2 _ herror rfl with
    ⟨k, -, -, hk, hbefore⟩ | ⟨_, _, _, _, _, _, hfault, -⟩
  · exact ⟨k, hk, hbefore⟩
  · exact absurd (Fault.tooDeep.inj hfault).2 (by decide)

end Condition
