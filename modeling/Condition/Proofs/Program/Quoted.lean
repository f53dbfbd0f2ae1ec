/-
Which texts may stand in quotes.

* `QuotedUnit`: a character, or a backslash with the character behind it;
  `quotedBody_iff_units`: the texts in quotes consist of such units, none of which takes a
  line feed along;
* `parse_literalText`: the tree of a text that is one literal;
* `longest?_escaped_feed`, `parse_of_escaped_feed`: no token begins with the quote of a text
  where a unit does, and that quote is reported;
* `parse_quoted_iff`: so a text in quotes has itself as its value just where no backslash
  stands before a line feed, and `parse_quoted_feed`: there are texts where one does.
-/
import Condition.Proofs.Grammar.Core
import Condition.Proofs.Program.Literal

namespace Condition

/-! ### Units -/

/-- A unit of a text in quotes: a character that is no quote and no backslash, or a backslash
with any one character behind it. -/
inductive QuotedUnit where
  | plain (c : Char) (hquote : c ≠ '"') (hslash : c ≠ '\\')
  | escaped (c : Char)
deriving DecidableEq

/-- The characters of a unit. -/
def QuotedUnit.chars : QuotedUnit → List Char
  | plain c _ _ => [c]
  | escaped c => ['\\', c]

/-- **The texts in quotes** are sequences of units, none of which takes a line feed along. -/
theorem quotedBody_iff_units {cs : List Char} :
    QuotedBody cs ↔ ∃ us : List QuotedUnit, cs = us.flatMap QuotedUnit.chars ∧
      QuotedUnit.escaped '\n' ∉ us := by
  constructor
  · intro h
    induction h with
    | nil => exact ⟨[], rfl, List.not_mem_nil⟩
    | @plain c _ hquote hslash _ ih =>
        obtain ⟨us, rfl, hus⟩ := ih
        exact ⟨.plain c hquote hslash :: us, rfl, by simp [hus]⟩
    | @escaped c _ hfeed _ ih =>
        obtain ⟨us, rfl, hus⟩ := ih
        exact ⟨.escaped c :: us, rfl, by simp [hus, hfeed.symm]⟩
  · rintro ⟨us, rfl, hus⟩
    induction us with
    | nil => exact .nil
    | cons u us ih =>
        rw [List.mem_cons, not_or] at hus
        cases u with
        | plain c hquote hslash => exact .plain hquote hslash (ih hus.2)
        | escaped c => exact .escaped (fun hfeed => hus.1 (by rw [hfeed])) (ih hus.2)

/-- Where a unit takes a line feed along, no closing quote is found behind it. -/
lemma closing?_escaped_feed {us : List QuotedUnit} (h : QuotedUnit.escaped '\n' ∈ us)
    (rest : List Char) : Pattern.closing? (us.flatMap QuotedUnit.chars ++ rest) = none := by
  induction us with
  | nil => exact absurd h List.not_mem_nil
  | cons u us ih =>
      rw [List.flatMap_cons, List.append_assoc]
      cases u with
      | plain c hquote hslash =>
          have hmem : QuotedUnit.escaped '\n' ∈ us := by simpa using h
          rw [QuotedUnit.chars, List.singleton_append, Pattern.closing?_plain hquote hslash,
            ih hmem]
          rfl
      | escaped c =>
          rw [QuotedUnit.chars, List.cons_append, List.singleton_append]
          by_cases hfeed : c = '\n'
          · rw [hfeed, Pattern.closing?.eq_def]
            simp
          · have hmem : QuotedUnit.escaped '\n' ∈ us := by simpa [Ne.symm hfeed] using h
            rw [Pattern.closing?_escaped hfeed, ih hmem]
            rfl

/-! ### Texts that begin with a quote -/

/-- The rule of a text that begins with a quote is the one for quoted texts. -/
lemma Rule.matches_quote {rule : Rule} {w : List Char} (hrule : rule ∈ rules)
    (h : rule.pattern.Matches ('"' :: w)) :
    rule.kind = .stringLiteral ∧ ∃ body, QuotedBody body ∧ w = body ++ ['"'] := by
  obtain ⟨c, cs, hw, hc⟩ := Rule.begins_of_matches hrule h
  obtain ⟨rfl, -⟩ := List.cons.inj hw
  have hkind := (kind_of_pattern rule hrule).2
  generalize rule.pattern = p at h hc hkind
  cases p with
  | spelling | number => simp [Pattern.begins] at hc
  | quoted =>
      generalize htext : '"' :: w = text at h
      cases h with
      | @quoted body hbody => exact ⟨hkind rfl, body, hbody, (List.cons.inj htext).2⟩

/-- **A text that begins with a quote** has a string literal as its first token. -/
lemma Tiled.head_of_quote {offset : Nat} {cs : List Char} {t : Token} {ts : List Token}
    (h : Tiled offset ('"' :: cs) (t :: ts)) :
    t.kind = .stringLiteral ∧
      ∃ body, QuotedBody body ∧ t.lexeme.toList = '"' :: (body ++ ['"']) := by
  have hsplit : Tiled offset ('"' :: cs) ([] ++ t :: ts) := h
  obtain ⟨before, after, hcs, -, hmatch, hbefore, -⟩ := hsplit.split
  obtain ⟨rule, hrule, hkind, hm⟩ := hmatch.rule
  obtain ⟨c, w, hw, -⟩ := hmatch.exists_cons
  -- nothing is skipped before it, as a quote is not
  cases before with
  | cons b before =>
      obtain ⟨rfl, -⟩ := List.cons.inj hcs
      cases Tiled.nil_iff.mp hbefore '"' List.mem_cons_self
  | nil =>
      rw [hw] at hcs hm ⊢
      obtain ⟨rfl, -⟩ := List.cons.inj hcs
      obtain ⟨hstring, body, hbody, rfl⟩ := Rule.matches_quote hrule hm
      exact ⟨hkind.symm.trans hstring, body, hbody, rfl⟩

/-- **No token begins with the quote** of a text where a unit takes a line feed along. -/
lemma longest?_escaped_feed {us : List QuotedUnit} (h : QuotedUnit.escaped '\n' ∈ us)
    (rest : List Char) : longest? ('"' :: (us.flatMap QuotedUnit.chars ++ rest)) = none := by
  refine longest?_eq_none_iff.mpr fun rule hrule v hv hm => ?_
  obtain ⟨c, w, rfl, -⟩ := Rule.begins_of_matches hrule hm
  obtain ⟨rfl, behind, hbehind⟩ := List.cons_prefix_cons.mp hv
  obtain ⟨-, body, hbody, rfl⟩ := Rule.matches_quote hrule hm
  have hclosing := closing?_escaped_feed h rest
  rw [← hbehind, List.append_assoc, List.singleton_append,
    Pattern.closing?_append hbody] at hclosing
  cases hclosing

/-! ### Trees of literals -/

/-- **The tree of a literal's text** covers the text. -/
lemma parse_literalText {source : String} {v : Value} (h : LiteralText source v) :
    parse source = .ok (.literal v ⟨0, Text.width source.toList⟩) := by
  obtain ⟨kind, htiled, hv⟩ := h
  have hderives := (derives_of_value hv).loosen
  rw [Token.span, Nat.zero_add] at hderives
  exact (parse_eq_ok_iff rfl).mpr
    ⟨_, _, htiled, hderives, fits_literal (Nat.zero_le _) _ _⟩

/-- A text that begins with a quote and is a literal begins with the string of its value. -/
lemma quotedBody_of_parse {source s : String} {cs : List Char} {span : Span}
    (hsource : source.toList = '"' :: cs) (h : parse source = .ok (.literal (.string s) span)) :
    QuotedBody s.toList := by
  obtain ⟨ts, opens, htiled, hderives, -⟩ := (parse_eq_ok_iff rfl).mp h
  rw [hsource] at htiled
  obtain ⟨front, core, back, rfl, hcore, hfront, -⟩ := hderives.exists_core
  cases hcore with
  | @literal t v span hv =>
  cases front with
  | cons opening front =>
      have hkind := hfront opening List.mem_cons_self
      rw [htiled.head_of_quote.1] at hkind
      cases hkind
  | nil =>
      obtain ⟨hkind, body, hbody, hlexeme⟩ := htiled.head_of_quote
      rw [Token.value?, hkind, hlexeme, unquoted_quotes] at hv
      simp only [Option.some.injEq, Value.string.injEq] at hv
      rwa [← hv, String.toList_ofList]

/-- Where a unit takes a line feed along, the opening quote is reported. -/
lemma parse_of_escaped_feed {s : String} {us : List QuotedUnit}
    (hs : s.toList = us.flatMap QuotedUnit.chars) (hfeed : QuotedUnit.escaped '\n' ∈ us) :
    parse (inQuotes s) = .error (.fault (.unidentified (some '"') 0)) := by
  have hnone : longest? ('"' :: (s.toList ++ ['"'])) = none := by
    rw [hs]
    exact longest?_escaped_feed hfeed ['"']
  have hscan : scan 0 (inQuotes s).toList = .error (Text.width []) := by
    rw [toList_inQuotes, scan_stuck rfl hnone]
    rfl
  have hsource : (inQuotes s).toList = [] ++ '"' :: (s.toList ++ ['"']) := toList_inQuotes s
  rw [parse, tokens_eq_error hsource hscan]
  rfl

/-- **Texts in quotes.** A text in quotes is one literal, with the text as its value and as
wide as all of it, if and only if the text is a sequence of units none of which is a backslash
with a line feed. In a sequence of units where one is, no token begins with the opening quote,
and that is what is reported. -/
theorem parse_quoted_iff (s : String) :
    (parse (inQuotes s) = .ok (.literal (.string s) ⟨0, Text.width (inQuotes s).toList⟩) ↔
      ∃ us : List QuotedUnit, s.toList = us.flatMap QuotedUnit.chars ∧
        QuotedUnit.escaped '\n' ∉ us) ∧
      ∀ us : List QuotedUnit, s.toList = us.flatMap QuotedUnit.chars →
        QuotedUnit.escaped '\n' ∈ us →
        parse (inQuotes s) = .error (.fault (.unidentified (some '"') 0)) := by
  rw [← quotedBody_iff_units]
  constructor
  · constructor
    · exact quotedBody_of_parse (toList_inQuotes s)
    · intro h
      exact parse_literalText (literalText_quoted h)
  · intro us hs hfeed
    exact parse_of_escaped_feed hs hfeed

/-- The theorem at a text with an escaped quote, a character of two bytes and an escaped
backslash before the closing quote, and at one with an escaped line feed. -/
theorem parse_quoted_escapes :
    parse (inQuotes "\\\"ä\\\\") = .ok (.literal (.string "\\\"ä\\\\") ⟨0, 8⟩) ∧
      parse (inQuotes "a\\\n") = .error (.fault (.unidentified (some '"') 0)) := by
  constructor
  · refine (parse_quoted_iff _).1.mpr
      ⟨[.escaped '"', .plain 'ä' ?_ ?_, .escaped '\\'], rfl, by simp⟩ <;> decide
  · refine (parse_quoted_iff _).2 [.plain 'a' ?_ ?_, .escaped '\n'] rfl (by simp) <;> decide

/-- **An escaped line feed** is no part of a string: a backslash and a line feed are one unit,
and in quotes they are no literal. -/
theorem parse_quoted_feed :
    ∃ us : List QuotedUnit, "\\\n".toList = us.flatMap QuotedUnit.chars ∧
      parse (inQuotes "\\\n") ≠
        .ok (.literal (.string "\\\n") ⟨0, Text.width (inQuotes "\\\n").toList⟩) := by
  have hs : "\\\n".toList = [QuotedUnit.escaped '\n'].flatMap QuotedUnit.chars := rfl
  have hparse : parse (inQuotes "\\\n") = .error (.fault (.unidentified (some '"') 0)) :=
    parse_of_escaped_feed hs List.mem_cons_self
  refine ⟨_, hs, ?_⟩
  intro hok
  rw [hparse] at hok
  cases hok

end Condition
