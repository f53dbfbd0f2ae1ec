/-
What the hint about an unexpected token says to put there.

* `Tiled.isSome_value?`, `Tiled.span_injective`: a literal of a text has a value, and the
  tokens of a text have different spans;
* `Token.BeginsOperand`: the tokens with which an operand may begin;
* `Reading.run_operator`, `Reading.run_value`, `Reading.run_value_eq_none`: what an operator,
  and what a literal, does before a token that cannot be read;
* `Blames.of_unexpected`: the token that is reported, and why it cannot be read;
* `Repairs`: what a hint promises; `parse_hint_repairs`: the hint about a token keeps its
  promise, and only a prefix operator behind an operand is given the wrong one
  (`parse_hint_minus`).
-/
import Condition.Proofs.Number.Text
import Condition.Proofs.Program.Place

namespace Condition

/-! ### Tokens of a text -/

lemma pattern_of_number : ∀ rule ∈ rules, rule.kind = .numberLiteral → rule.pattern = .number := by
  decide

section Tokens

variable {cs : List Char} {ts : List Token}

/-- **A literal of a text** has a value: every number there reads as a double. -/
lemma Tiled.isSome_value? {offset : Nat} {t : Token} (h : Tiled offset cs ts) (ht : t ∈ ts)
    (hkind : t.kind.beginsValue = true) (hparen : t.kind ≠ .leftParen) :
    t.value?.isSome = true := by
  by_cases hnumber : t.kind = .numberLiteral
  · obtain ⟨_, _, -, -, hmatch⟩ := h.located ht
    obtain ⟨rule, hrule, hrule_kind, hm⟩ := hmatch.rule
    rw [pattern_of_number rule hrule (hrule_kind.trans hnumber)] at hm
    obtain ⟨x, hx, -⟩ := Binary64.exists_read? (hm.isNumeral .absent)
    rw [List.nil_append] at hx
    rw [Token.value?, hnumber, hx]
    rfl
  · cases hk : t.kind <;> simp_all [Token.value?, TokenKind.beginsValue]

/-- **The tokens of a text have different spans**: none is empty, and they do not overlap. -/
lemma Tiled.span_injective (h : Tiled 0 cs ts) {i j : Nat} (hi : i < ts.length)
    (hj : j < ts.length) (hspan : ts[i].span = ts[j].span) : i = j := by
  have hordered := List.pairwise_iff_getElem.mp h.ordered
  have hbefore : ∀ {i j : Nat} (hi : i < ts.length) (hj : j < ts.length), i < j →
      ts[i].span ≠ ts[j].span := by
    intro i j hi hj hij hspan
    have hle : ts[i].span.stop ≤ ts[j].span.start := hordered i j hi hj hij
    have hlt := (h.span_within (List.getElem_mem hj)).start_lt_stop
    rw [hspan] at hle
    omega
  rcases Nat.lt_trichotomy i j with hlt | heq | hgt
  · exact absurd hspan (hbefore hi hj hlt)
  · exact heq
  · exact absurd hspan.symm (hbefore hj hi hgt)

end Tokens

/-! ### Tokens that cannot be read -/

/-- An operand may begin with the token: a literal, a parenthesis or a prefix operator. -/
def Token.BeginsOperand (t : Token) : Prop := ∃ r, (Reading.wanted 0).step t = some r

lemma beginsOperand_iff {t : Token} :
    t.BeginsOperand ↔
      t.kind = .leftParen ∨ t.kind.unary?.isSome = true ∨ t.value?.isSome = true := by
  simp only [Token.BeginsOperand, Reading.step_wanted]
  constructor
  · rintro ⟨r, ⟨h, -⟩ | ⟨h, -⟩ | ⟨h, -⟩⟩
    · exact .inl h
    · exact .inr (.inl h)
    · exact .inr (.inr h)
  · rintro (h | h | h)
    · exact ⟨_, .inl ⟨h, rfl⟩⟩
    · exact ⟨_, .inr (.inl ⟨h, rfl⟩)⟩
    · exact ⟨_, .inr (.inr ⟨h, rfl⟩)⟩

/-- Where an operand is wanted, one may begin, however many parentheses are open. -/
lemma Token.BeginsOperand.exists_step {t : Token} (h : t.BeginsOperand) (d : Nat) :
    ∃ r, (Reading.wanted d).step t = some r := by
  obtain ⟨r, hr⟩ := h
  have hdeeper := Reading.step_deeper hr d
  rw [Reading.deeper, Nat.zero_add] at hdeeper
  exact ⟨_, hdeeper⟩

namespace Reading

variable {r : Reading} {t u : Token}

/-- What begins an operand and cannot be read stands behind an operand. -/
lemma eq_complete (hstep : r.step t = none) (ht : t.BeginsOperand) : ∃ d, r = complete d := by
  cases r with
  | wanted d =>
      obtain ⟨r, hr⟩ := ht.exists_step d
      rw [hr] at hstep
      cases hstep
  | complete d => exact ⟨d, rfl⟩

/-- An infix operator that cannot be read stands where an operand is wanted. -/
lemma eq_wanted {op : BinaryOperator} (hstep : r.step t = none) (ht : t.kind.binary? = some op) :
    ∃ d, r = wanted d := by
  cases r with
  | wanted d => exact ⟨d, rfl⟩
  | complete d =>
      rw [step_of_binary ht] at hstep
      cases hstep

/-- **An infix operator helps** what begins an operand and cannot be read. -/
lemma run_operator {op : BinaryOperator} (hstep : r.step t = none) (ht : t.BeginsOperand)
    (hu : u.kind.binary? = some op) : ∃ r', r.run [u, t] = some r' := by
  obtain ⟨d, rfl⟩ := eq_complete hstep ht
  obtain ⟨r', hr'⟩ := ht.exists_step d
  exact ⟨r', by rw [run_cons, step_of_binary hu, Option.bind_some, run_cons, hr', Option.bind_some,
    run_nil]⟩

/-- **A literal helps** an infix operator that cannot be read. -/
lemma run_value {op : BinaryOperator} {v : Value} (hstep : r.step t = none)
    (ht : t.kind.binary? = some op) (hu : u.value? = some v) : ∃ r', r.run [u, t] = some r' := by
  obtain ⟨d, rfl⟩ := eq_wanted hstep ht
  exact ⟨wanted d, by rw [run_cons, step_of_value hu, Option.bind_some, run_cons,
    step_of_binary ht, Option.bind_some, run_nil]⟩

/-- **A literal does not help** what begins an operand and cannot be read: it cannot be read
either. -/
lemma run_value_eq_none {v : Value} (hstep : r.step t = none) (ht : t.BeginsOperand)
    (hu : u.value? = some v) : r.run [u, t] = none := by
  obtain ⟨d, rfl⟩ := eq_complete hstep ht
  have hnone : (complete d).step u = none := by
    rw [Option.eq_none_iff_forall_not_mem]
    intro r' hr'
    have hkind : u.kind.binary?.isSome = true ∨ u.kind = .rightParen := by
      rcases step_complete.mp hr' with ⟨h, -⟩ | ⟨h, -⟩
      · exact .inl h
      · exact .inr h
    cases hk : u.kind <;> simp_all [Token.value?, TokenKind.binary?]
  rw [run_cons, hnone, Option.bind_none]

end Reading

/-! ### Reports about tokens -/

/-- **The token that is reported** as unexpected cannot be read behind the tokens before it, or
it is the last one and an operand is wanted behind it. -/
lemma Blames.of_unexpected {source : List Char} {ts : List Token} {f : Fault} (hne : ts ≠ [])
    (h : Blames source (.wanted 0) [] ts f)
    (hkey : f.diagnostic.message.key = "expressions-unexpected-token") :
    ∃ k, ∃ hk : k < ts.length,
      (f = .unexpected ts[k] .forward ∧
        ∃ r, (Reading.wanted 0).run (ts.take k) = some r ∧ r.step ts[k] = none) ∨
      (f = .unexpected ts[k] .backward ∧ k + 1 = ts.length ∧
        ∃ d, (Reading.wanted 0).run ts = some (.wanted d)) := by
  cases h with
  | unexpected hr ht =>
      rename_i r front back t
      exact ⟨front.length, by simp, .inl ⟨by simp, r, by simpa using hr, by simpa using ht⟩⟩
  | missing hr =>
      have hlast := List.getLast_eq_getElem hne
      have hpos := List.length_pos_iff.mpr hne
      rw [missing_eq source hne, hlast]
      exact ⟨ts.length - 1, by omega, .inr ⟨rfl, by omega, _, hr⟩⟩
  | unclosed | tooDeep =>
      exact absurd hkey (by simp [Fault.diagnostic, Fault.plainMessage, Message.key])

/-- The hint about a token that cannot be read goes by its kind. -/
lemma Fault.hintKey_forward (kind : TokenKind) :
    (hintKey kind .forward = "expressions-hint-expected-operator" → kind.beginsValue = true) ∧
      (hintKey kind .forward = "expressions-hint-expected-value-before" →
        kind.binary?.isSome = true ∨ kind.unary?.isSome = true) ∧
      hintKey kind .forward ≠ "expressions-hint-expected-value-after" := by
  cases kind <;> decide

/-- The hint about the last token does not speak of what is before it. -/
lemma Fault.hintKey_backward (kind : TokenKind) :
    hintKey kind .backward ≠ "expressions-hint-expected-operator" ∧
      hintKey kind .backward ≠ "expressions-hint-expected-value-before" := by
  cases kind <;> decide

/-! ### Hints -/

/-- **What a hint promises** about the token at `k`. -/
structure Repairs (ts : List Token) (k : Nat) (hk : k < ts.length) (key : String) : Prop where
  /-- Where an operator is asked for, every infix operator before the token makes the tokens up
  to it the beginning of an expression. -/
  operator : key = "expressions-hint-expected-operator" →
    ∀ u op, u.kind.binary? = some op → Viable (ts.take k ++ [u, ts[k]])
  /-- Where a value is asked for before the token, every literal does so, unless the token is a
  prefix operator. -/
  before : key = "expressions-hint-expected-value-before" → ts[k].kind.unary? = none →
    ∀ u v, u.value? = some v → Viable (ts.take k ++ [u, ts[k]])
  /-- Before a prefix operator every infix operator does so, and no literal. -/
  before_unary : key = "expressions-hint-expected-value-before" → ts[k].kind.unary? ≠ none →
    (∀ u op, u.kind.binary? = some op → Viable (ts.take k ++ [u, ts[k]])) ∧
      ∀ u v, u.value? = some v → ¬Viable (ts.take k ++ [u, ts[k]])
  /-- Where a value is asked for behind the token, this is the last one, and all tokens with any
  literal behind them begin an expression. -/
  after : key = "expressions-hint-expected-value-after" →
    k + 1 = ts.length ∧ ∀ u v, u.value? = some v → Viable (ts ++ [u])

section Repairs

variable {ts : List Token} {k : Nat} {hk : k < ts.length}

/-- What is put before a token that cannot be read is read where the token stood. -/
lemma viable_inserted {r : Reading} (hr : (Reading.wanted 0).run (ts.take k) = some r) (u : Token) :
    Viable (ts.take k ++ [u, ts[k]]) ↔ ∃ r', r.run [u, ts[k]] = some r' := by
  rw [viable_iff_run, Reading.run_append, hr, Option.bind_some]

/-- The hint about a token of a text that cannot be read. -/
lemma Repairs.forward {r : Reading} {cs : List Char} (htiled : Tiled 0 cs ts)
    (hr : (Reading.wanted 0).run (ts.take k) = some r) (hstep : r.step ts[k] = none) :
    Repairs ts k hk (Fault.hintKey ts[k].kind .forward) := by
  obtain ⟨hoperator, hbefore, hafter⟩ := Fault.hintKey_forward ts[k].kind
  refine ⟨?_, ?_, ?_, fun hkey => absurd hkey hafter⟩
  · intro hkey u op hu
    have hbegins : ts[k].BeginsOperand := by
      refine beginsOperand_iff.mpr ?_
      by_cases hparen : ts[k].kind = .leftParen
      · exact .inl hparen
      · exact .inr (.inr (htiled.isSome_value? (List.getElem_mem hk) (hoperator hkey) hparen))
    exact (viable_inserted hr u).mpr (Reading.run_operator hstep hbegins hu)
  · intro hkey hnone u v hu
    rcases hbefore hkey with hbinary | hunary
    · obtain ⟨op, hop⟩ := Option.isSome_iff_exists.mp hbinary
      exact (viable_inserted hr u).mpr (Reading.run_value hstep hop hu)
    · rw [hnone] at hunary
      cases hunary
  · intro _ hunary
    have hbegins : ts[k].BeginsOperand :=
      beginsOperand_iff.mpr (.inr (.inl (Option.isSome_iff_ne_none.mpr hunary)))
    refine ⟨fun u op hu => (viable_inserted hr u).mpr (Reading.run_operator hstep hbegins hu), ?_⟩
    intro u v hu
    rw [viable_inserted hr u, Reading.run_value_eq_none hstep hbegins hu]
    nofun

/-- The hint about the last token, behind which an operand is wanted: a literal is one. -/
lemma Repairs.backward {d : Nat} (hlast : k + 1 = ts.length)
    (hr : (Reading.wanted 0).run ts = some (.wanted d)) :
    Repairs ts k hk (Fault.hintKey ts[k].kind .backward) := by
  obtain ⟨hoperator, hbefore⟩ := Fault.hintKey_backward ts[k].kind
  refine ⟨fun hkey => absurd hkey hoperator, fun hkey => absurd hkey hbefore,
    fun hkey => absurd hkey hbefore, fun _ => ⟨hlast, ?_⟩⟩
  intro u v hu
  refine viable_iff_run.mpr ⟨.complete d, ?_⟩
  rw [Reading.run_append, hr, Option.bind_some, Reading.run_cons, Reading.step_of_value hu,
    Option.bind_some, Reading.run_nil]

end Repairs

/-- **A hint says what helps.** Where a token of a text is reported as unexpected, the report
stands at this token and no other, and has a hint that keeps its promise: an operator, or a
value, where the hint asks for one, makes the tokens up to this one the beginning of an
expression. Only a prefix operator is given the wrong hint: no value helps before it, and every
infix operator does. -/
theorem parse_hint_repairs (source : String) (ts : List Token) (hts : tokens source = .ok ts)
    (f : Fault) (hf : parse source = .error (.fault f))
    (hkey : f.diagnostic.message.key = "expressions-unexpected-token") :
    ∃ k, ∃ hk : k < ts.length, ∃ hint : Message,
      (∀ j, ∀ hj : j < ts.length, f.diagnostic.span = ts[j].span ↔ j = k) ∧
      f.diagnostic.hint = some hint ∧ Repairs ts k hk hint.key := by
  have htiled : Tiled 0 source.toList ts := tokens_eq_ok_iff.mp hts
  obtain ⟨hne, hblames⟩ : ts ≠ [] ∧ Blames source.toList (.wanted 0) [] ts f := by
    rcases parse_eq_error hf with ⟨_, _, _, -, hfault⟩ | ⟨us, g, hne, hus, -, hblames, hfault⟩
    · obtain rfl := Failure.fault.inj hfault
      exact absurd hkey (by simp [Fault.diagnostic, Fault.plainMessage, Message.key])
    · obtain rfl := Failure.fault.inj hfault
      obtain rfl := Except.ok.inj (hts.symm.trans (tokens_eq_ok_iff.mpr hus))
      exact ⟨hne, hblames⟩
  obtain ⟨k, hk, hcases⟩ := hblames.of_unexpected hne hkey
  have hspans : ∀ j, ∀ hj : j < ts.length, ts[k].span = ts[j].span ↔ j = k := by
    intro j hj
    constructor
    · exact fun hspan => htiled.span_injective hj hk hspan.symm
    · rintro rfl
      rfl
  rcases hcases with ⟨rfl, r, hr, hstep⟩ | ⟨rfl, hlast, d, hr⟩
  · exact ⟨k, hk, _, hspans, rfl, .forward htiled hr hstep⟩
  · exact ⟨k, hk, _, hspans, rfl, .backward hlast hr⟩

/-- The theorem at `(true "a"`, whose string wants an operator before it: `(true or "a"` may go
on. -/
theorem parse_hint_repairs_string :
    tokens "(true \"a\"" = .ok [⟨"(", .leftParen, 0⟩, ⟨"true", .trueLiteral, 1⟩,
        ⟨"\"a\"", .stringLiteral, 6⟩] ∧
      parse "(true \"a\"" = .error (.fault (.unexpected ⟨"\"a\"", .stringLiteral, 6⟩ .forward)) ∧
      Viable [⟨"(", .leftParen, 0⟩, ⟨"true", .trueLiteral, 1⟩, ⟨"or", .disjunction, 0⟩,
        ⟨"\"a\"", .stringLiteral, 6⟩] := by
  have htokens : tokens "(true \"a\"" = .ok [⟨"(", .leftParen, 0⟩, ⟨"true", .trueLiteral, 1⟩,
      ⟨"\"a\"", .stringLiteral, 6⟩] := by decide +kernel
  have hread : (Reading.wanted 0).run [⟨"(", .leftParen, 0⟩, ⟨"true", .trueLiteral, 1⟩] =
      some (.complete 1) := rfl
  have hparse : parse "(true \"a\"" =
      .error (.fault (.unexpected ⟨"\"a\"", .stringLiteral, 6⟩ .forward)) :=
    (parse_eq_fault_iff htokens (List.cons_ne_nil _ _) (by decide)).mpr
      ⟨.unexpected hread rfl, rfl⟩
  refine ⟨htokens, hparse, ?_⟩
  obtain ⟨k, hk, hint, hspans, hhint, hrepairs⟩ :=
    parse_hint_repairs _ _ htokens _ hparse rfl
  obtain rfl : 2 = k := (hspans 2 (by decide)).mp rfl
  obtain rfl := Option.some.inj hhint
  exact hrepairs.operator rfl ⟨"or", .disjunction, 0⟩ .or rfl

/-- **A prefix operator behind an operand**: in `true - 1` the hint asks for a value before the
minus, and there `true false -` begins no expression either. -/
theorem parse_hint_minus :
    ∃ f ts, tokens "true - 1" = .ok ts ∧ parse "true - 1" = .error (.fault f) ∧
      f.diagnostic.message.key = "expressions-unexpected-token" ∧
      (∃ hint, f.diagnostic.hint = some hint ∧
        hint.key = "expressions-hint-expected-value-before") ∧
      ∃ hk : 1 < ts.length, f.diagnostic.span = ts[1].span ∧
        ¬Viable (ts.take 1 ++ [⟨"false", .falseLiteral, 5⟩, ts[1]]) := by
  have htokens : tokens "true - 1" = .ok [⟨"true", .trueLiteral, 0⟩, ⟨"-", .minus, 5⟩,
      ⟨"1", .numberLiteral, 7⟩] := by decide +kernel
  have hread : (Reading.wanted 0).run [⟨"true", .trueLiteral, 0⟩] = some (.complete 0) := rfl
  have hparse : parse "true - 1" = .error (.fault (.unexpected ⟨"-", .minus, 5⟩ .forward)) :=
    (parse_eq_fault_iff htokens (List.cons_ne_nil _ _) (by decide)).mpr
      ⟨.unexpected hread rfl, rfl⟩
  refine ⟨_, _, htokens, hparse, rfl, ⟨_, rfl, rfl⟩, by decide, rfl, ?_⟩
  rw [viable_iff_run]
  rintro ⟨r, hr⟩
  cases hr

end Condition
