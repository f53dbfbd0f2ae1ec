/-
What a type error highlights shows the error.

* `highlighted`: the part of a source text that a report highlights;
* `kind_ne_type_of_parse_eq_error`: only the evaluation reports types;
* `evaluate_highlighted`: the text that is highlighted shows the error on its own.
-/
import Condition.Proofs.Evaluate.Blame
import Condition.Proofs.Parse.Subtree

namespace Condition

/-- Types have different names. -/
lemma ValueType.name_injective : Function.Injective ValueType.name := by
  intro σ τ h
  cases σ <;> cases τ <;> first | rfl | exact absurd h (by decide)

/-- The part of a source text that a report highlights. -/
def highlighted (source : String) (d : Diagnostic) : String :=
  String.ofList (Text.slice source.toList d.span.start d.span.stop)

/-- A report about a type is one of an operand of the wrong type. -/
lemma Fault.exists_of_kind_type {f : Fault} (h : f.diagnostic.kind = .type) :
    ∃ operator symbol expected actual span,
      f = .invalidType operator symbol expected actual span := by
  cases f with
  | invalidType operator symbol expected actual span => exact ⟨_, _, _, _, _, rfl⟩
  | _ => cases h

/-- **What is reported about a text without a tree** is nothing about types. -/
lemma kind_ne_type_of_parse_eq_error {source : String} {f : Fault}
    (h : parse source = .error (.fault f)) : f.diagnostic.kind ≠ .type := by
  rcases parse_eq_error h with
    ⟨before, c, after, hsource, hf⟩ | ⟨ts, f', hne, htiled, -, hblames, hf⟩
  · obtain rfl := Failure.fault.inj hf
    exact nofun
  · obtain rfl := Failure.fault.inj hf
    rcases hblames.kind_cases with hkind | ⟨t, limit, rfl⟩
    · rw [hkind]
      exact nofun
    · exact nofun

/-- **A type error can be seen in what it highlights.** That part of the source text has a tree.
If a comparison is blamed, the part alone fails with the same report, but for its span, which
is then all of the part. Otherwise a prefix operator is blamed, and the part alone has a value,
of the type that is reported and not of the one that is asked for. -/
theorem evaluate_highlighted (source : String) (f : Fault)
    (hf : evaluate source = .error (.fault f)) (hkind : f.diagnostic.kind = .type) :
    ∃ operator symbol expected actual span,
      f = .invalidType operator symbol expected actual span ∧ span.Within source.toList ∧
      (∃ e, parse (highlighted source f.diagnostic) = .ok e) ∧
      ((∃ op, operator = .binary op ∧ op.family = .relation ∧
          ∃ g, evaluate (highlighted source f.diagnostic) = .error (.fault g) ∧
            g.diagnostic = { f.diagnostic with span := ⟨0, span.stop - span.start⟩ }) ∨
        ∃ op v, operator = .unary op ∧
          evaluate (highlighted source f.diagnostic) = .ok (some v) ∧
          v.type.name = actual.name ∧ actual.name ≠ expected.name) := by
  obtain ⟨operator, symbol, expected, actual, span, rfl⟩ := Fault.exists_of_kind_type hkind
  refine ⟨operator, symbol, expected, actual, span, rfl, ?_⟩
  cases hparse : parse source with
  | error failure =>
      rw [evaluate_of_parse_error hparse, Except.error.injEq] at hf
      rw [hf] at hparse
      exact absurd hkind (kind_ne_type_of_parse_eq_error hparse)
  | ok e =>
      rw [evaluate_of_parse hparse] at hf
      have hne : e.isEmpty = false := by
        cases e with
        | empty => cases hf
        | literal | unary | binary => rfl
      -- the node that shows the error, and the piece of the text that it has
      obtain ⟨n, hn, hspan, hshows⟩ := Expr.exists_shows hf
      obtain ⟨before, mid, after, m, hsource, hmid, hpiece, hm, -, rfl⟩ :=
        parse_piece hparse hne hn
      have hpart : highlighted source
          (Fault.invalidType operator symbol expected actual span).diagnostic =
            String.ofList mid := by
        show String.ofList (Text.slice source.toList span.start span.stop) = _
        rw [← hspan, hpiece, hsource, Text.slice_append]
      have hwithin := Span.within_append before after hmid
      rw [← hpiece, hspan, ← hsource] at hwithin
      refine ⟨hwithin, ⟨m, by rw [hpart, hm]⟩, ?_⟩
      -- the piece shows the error at its own place
      have hmoved : span = Span.moved (Text.width before) ⟨0, Text.width mid⟩ := by
        rw [← hspan, hpiece, Span.moved, Nat.zero_add, Nat.add_comm]
      have hlength : span.stop - span.start = Text.width mid := by
        rw [← hspan, hpiece, Nat.add_sub_cancel_left]
      rw [hmoved, Expr.evaluate_moved] at hshows
      rw [hpart, evaluate_of_parse hm, hlength]
      rcases hshows.of_moved with ⟨op, hoperator, hop, herror⟩ | ⟨op, v, hoperator, hv, rfl, hne⟩
      · exact .inl ⟨op, hoperator, hop, _, herror, rfl⟩
      · exact .inr ⟨op, v, hoperator, hv, rfl, ValueType.name_injective.ne hne⟩

/-- The text `true and ("a" > "b")`: by the theorem its comparison, with the parentheses, fails
alone as it does in the text. -/
theorem evaluate_highlighted_group :
    ∃ f, evaluate "true and (\"a\" > \"b\")" = .error (.fault f) ∧ f.diagnostic.kind = .type ∧
      f.diagnostic.span = ⟨9, 20⟩ ∧
        ∃ g, evaluate "(\"a\" > \"b\")" = .error (.fault g) ∧
          g.diagnostic = { f.diagnostic with span := ⟨0, 11⟩ } := by
  have htext : "true and (\"a\" > \"b\")".toList =
      ['t', 'r', 'u', 'e', ' ', 'a', 'n', 'd', ' ', '(', '"', 'a', '"', ' ', '>', ' ', '"', 'b',
        '"', ')'] := by simp
  have htiled : Tiled 0 "true and (\"a\" > \"b\")".toList
      [⟨"true", .trueLiteral, 0⟩, ⟨"and", .conjunction, 5⟩, ⟨"(", .leftParen, 9⟩,
        ⟨"\"a\"", .stringLiteral, 10⟩, ⟨">", .greater, 14⟩, ⟨"\"b\"", .stringLiteral, 16⟩,
        ⟨")", .rightParen, 19⟩] := by
    rw [htext]
    refine .of_longest? (m := ⟨.trueLiteral, 4, by decide⟩) rfl (.blank rfl ?_)
    refine .of_longest? (m := ⟨.conjunction, 3, by decide⟩) rfl (.blank rfl ?_)
    refine .of_longest? (m := ⟨.leftParen, 1, by decide⟩) rfl ?_
    refine .of_longest? (m := ⟨.stringLiteral, 3, by decide⟩) rfl (.blank rfl ?_)
    refine .of_longest? (m := ⟨.greater, 1, by decide⟩) rfl (.blank rfl ?_)
    refine .of_longest? (m := ⟨.stringLiteral, 3, by decide⟩) rfl ?_
    exact .of_longest? (m := ⟨.rightParen, 1, by decide⟩) rfl .nil
  have hleft : Derives .unary [⟨"true", .trueLiteral, 0⟩] [0]
      (.literal (.boolean true) ⟨0, 4⟩) := .primary (.literal rfl)
  have ha : Derives .unary [⟨"\"a\"", .stringLiteral, 10⟩] [0]
      (.literal (.string "a") ⟨10, 13⟩) := .primary (.literal rfl)
  have hb : Derives .unary [⟨"\"b\"", .stringLiteral, 16⟩] [0]
      (.literal (.string "b") ⟨16, 19⟩) := .primary (.literal rfl)
  have hinner := Derives.joined (ha.toChain .comparison) (t := ⟨">", .greater, 14⟩) rfl rfl
    (hb.toOperand .comparison)
  have hgroup : Derives .unary
      [⟨"(", .leftParen, 9⟩, ⟨"\"a\"", .stringLiteral, 10⟩, ⟨">", .greater, 14⟩,
        ⟨"\"b\"", .stringLiteral, 16⟩, ⟨")", .rightParen, 19⟩] [1, 1, 1, 1, 1]
      (.binary .greater ">" (.literal (.string "a") ⟨10, 13⟩) (.literal (.string "b") ⟨16, 19⟩)
        ⟨9, 20⟩ 2) := .primary (.group rfl hinner.loosen rfl)
  have hwhole := Derives.joined (hleft.toChain .conjunction) (t := ⟨"and", .conjunction, 5⟩) rfl rfl
    (hgroup.toOperand .conjunction)
  have hparse : parse "true and (\"a\" > \"b\")" = .ok _ :=
    (parse_eq_ok_iff rfl).mpr ⟨_, _, htiled, hwhole.loosen, fits_zero.mpr ⟨by decide, by decide⟩⟩
  have herror : evaluate "true and (\"a\" > \"b\")" =
      .error (.fault (.invalidType (.binary .greater) ">" .number .string ⟨9, 20⟩)) :=
    evaluate_of_parse hparse
  have hpart : highlighted "true and (\"a\" > \"b\")"
      (Fault.invalidType (.binary .greater) ">" .number .string ⟨9, 20⟩).diagnostic =
        "(\"a\" > \"b\")" := by
    rw [highlighted, htext]
    rfl
  obtain ⟨_, _, _, _, _, hfault, -, -, hshows⟩ := evaluate_highlighted _ _ herror rfl
  cases hfault
  rw [hpart] at hshows
  rcases hshows with ⟨_, -, -, g, hg, hdiagnostic⟩ | ⟨_, _, hoperator, -⟩
  · exact ⟨_, herror, rfl, rfl, g, hg, hdiagnostic⟩
  · cases hoperator

end Condition
