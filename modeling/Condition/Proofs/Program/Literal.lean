/-
Texts of literals, and numbers in quotes.

* `LiteralText`: a text that is one literal token; `literalText_number`,
  `literalText_quoted`: digits with or without a point, and a text in quotes;
* `evaluate_literals`: two literals with an infix operator between them have the value that
  the operator gives to theirs;
* `literalText_padded`: a number in quotes with padding stands for the same double as
  without;
* `evaluate_numbers_equal`: so loose equality does not see whether a number is in quotes.
-/
import Condition.Program
import Condition.Proofs.Parse.Subtree
import Condition.Proofs.Token.Blanks
import Condition.Proofs.Value.Equality

namespace Condition

/-! ### Literals -/

/-- The text is that of one literal token, which has the value. -/
def LiteralText (source : String) (v : Value) : Prop :=
  ∃ kind, Tiled 0 source.toList [⟨source, kind, 0⟩] ∧
    (⟨source, kind, 0⟩ : Token).value? = some v

/-- The text in quotes. -/
def inQuotes (s : String) : String := "\"" ++ s ++ "\""

lemma toList_inQuotes (s : String) : (inQuotes s).toList = '"' :: (s.toList ++ ['"']) := by
  simp [inQuotes]

/-- A text of a rule is a token of its own. -/
lemma tiled_of_matches {source : String} (rule : Rule) (hrule : rule ∈ rules)
    (h : rule.pattern.Matches source.toList) :
    Tiled 0 source.toList [⟨source, rule.kind, 0⟩] := by
  have halone : LongestMatch (source.toList ++ []) source.toList rule.kind := by
    rw [List.append_nil]
    exact .self hrule h
  have htiled : Tiled 0 (source.toList ++ []) [⟨String.ofList source.toList, rule.kind, 0⟩] :=
    .token halone .nil
  rwa [String.ofList_toList, List.append_nil] at htiled

/-- A number is a literal. -/
lemma literalText_number {source : String} {x : Binary64}
    (h : Pattern.number.Matches source.toList) (hx : Binary64.read? source.toList = some x) :
    LiteralText source (.number x) := by
  refine ⟨.numberLiteral, tiled_of_matches ⟨.numberLiteral, .number⟩ (by decide) h, ?_⟩
  rw [Token.value?, hx]
  rfl

/-- The quotes around a string literal are taken off. -/
lemma unquoted_quotes (cs : List Char) : unquoted ('"' :: (cs ++ ['"'])) = cs := by
  rw [unquoted, List.getLast?_concat, if_pos rfl, List.dropLast_concat]

/-- A text in quotes is a literal that has the text as its value. -/
lemma literalText_quoted {s : String} (h : QuotedBody s.toList) :
    LiteralText (inQuotes s) (.string s) := by
  have hmatch : Pattern.quoted.Matches (inQuotes s).toList := by
    rw [toList_inQuotes]
    exact .quoted h
  refine ⟨.stringLiteral, tiled_of_matches ⟨.stringLiteral, .quoted⟩ (by decide) hmatch, ?_⟩
  rw [Token.value?, toList_inQuotes, unquoted_quotes, String.ofList_toList]

/-! ### Literals with an operator -/

/-- What a literal token stands for does not depend on its place. -/
lemma Token.value?_of_word {t u : Token} (h : t.word = u.word) : t.value? = u.value? := by
  obtain ⟨hkind, hlexeme⟩ := Prod.mk.inj h
  rw [Token.value?, Token.value?, hkind, hlexeme]

/-- A literal token is a unary expression. -/
lemma derives_of_value {t : Token} {v : Value} (h : t.value? = some v) :
    Derives .unary [t] [0] (.literal v t.span) :=
  .primary (.literal h)

/-- **Two literals with an infix operator** between them, and a blank on both sides of it, have
the value that the operator gives to theirs. -/
lemma evaluate_literals {a b symbol : String} {l r : Value} {kind : TokenKind}
    {op : BinaryOperator} (ha : LiteralText a l) (hb : LiteralText b r)
    (hsymbol : kind.Spells symbol) (hop : kind.binary? = some op) :
    ∃ span, evaluate (a ++ (" " ++ (symbol ++ (" " ++ b)))) =
      (applyBinary op symbol span (.ok l) (.ok r)).map some := by
  obtain ⟨ka, htiled, hl⟩ := ha
  obtain ⟨kb, htiled', hr⟩ := hb
  obtain ⟨rule, hrule, rfl, hpattern⟩ := hsymbol
  have hoperator : Tiled 0 symbol.toList [⟨symbol, rule.kind, 0⟩] :=
    tiled_of_matches rule hrule (by rw [hpattern]; exact .spelling _)
  -- the three lexemes with a blank between each two are three tokens
  have hspaced : Spaced [⟨a, ka, 0⟩, ⟨symbol, rule.kind, 0⟩, ⟨b, kb, 0⟩]
      (a ++ (" " ++ (symbol ++ (" " ++ b)))).toList := by
    simp only [String.toList_append]
    exact .next (by simp) (by simp [isSkipped])
      (.next (t := ⟨symbol, rule.kind, 0⟩) (by simp) (by simp [isSkipped]) (.last ⟨b, kb, 0⟩))
  obtain ⟨us, hus, hwords⟩ := hspaced.tiled (by simp [htiled, htiled', hoperator])
  obtain ⟨t, us, rfl, ht, hwords⟩ := List.map_eq_cons_iff.mp hwords
  obtain ⟨u, us, rfl, hu, hwords⟩ := List.map_eq_cons_iff.mp hwords
  obtain ⟨w, us, rfl, hw, hwords⟩ := List.map_eq_cons_iff.mp hwords
  obtain rfl := List.map_eq_nil_iff.mp hwords
  -- and an operation on the two values
  have hleft := derives_of_value ((Token.value?_of_word ht).trans hl)
  have hright := derives_of_value ((Token.value?_of_word hw).trans hr)
  obtain ⟨hkind, rfl⟩ := Prod.mk.inj hu
  have hbinary : u.kind.binary? = some op := (congrArg TokenKind.binary? hkind).trans hop
  have hjoined := Derives.joined (hleft.toChain op.level) hbinary rfl
    (hright.toOperand op.level)
  have hdepth : 2 ≤ maxDepth := by decide
  have hparse := (parse_eq_ok_iff rfl).mpr
    ⟨_, _, hus, hjoined.loosen, fits_zero.mpr ⟨by decide, hdepth⟩⟩
  exact ⟨_, evaluate_of_parse hparse⟩

/-- Two literals with `==` between them are compared with loose equality. -/
lemma evaluate_equal {a b : String} {l r : Value} (ha : LiteralText a l) (hb : LiteralText b r) :
    evaluate (a ++ " == " ++ b) = .ok (some (.boolean (l.looselyEqual r))) := by
  have htext : a ++ " == " ++ b = a ++ (" " ++ ("==" ++ (" " ++ b))) := by
    rw [← String.toList_inj]
    simp
  have hspelled : TokenKind.Spells .equals "==" := ⟨.spelled .equals "==", by decide, rfl, rfl⟩
  obtain ⟨span, hvalue⟩ := evaluate_literals ha hb hspelled rfl
  rw [htext, hvalue]
  rfl

/-! ### Numbers in quotes -/

/-- A text in which no quote and no backslash is bare may stand in quotes. -/
lemma quotedBody_of_plain {cs : List Char} (h : ∀ c ∈ cs, c ≠ '"' ∧ c ≠ '\\') : QuotedBody cs := by
  induction cs with
  | nil => exact .nil
  | cons c cs ih =>
      obtain ⟨hc, hcs⟩ := List.forall_mem_cons.mp h
      exact .plain hc.1 hc.2 (ih hcs)

lemma plain_of_isPadding {c : Char} (h : Binary64.isPadding c = true) : c ≠ '"' ∧ c ≠ '\\' := by
  constructor <;> rintro rfl <;> cases h

lemma plain_of_isNumericChar {c : Char} (h : Binary64.isNumericChar c = true) :
    c ≠ '"' ∧ c ≠ '\\' := by
  constructor <;> rintro rfl <;> cases h

/-- A number, with or without a point, is a numeral. -/
lemma isNumeral_of_matches {cs : List Char} (h : Pattern.number.Matches cs) : IsNumeral cs :=
  h.isNumeral .absent

/-- **A number in quotes**, with any padding, is a literal of a string that stands for what the
number is read as. -/
lemma literalText_padded {v p q : String} (hv : Pattern.number.Matches v.toList)
    (hp : Padding p.toList) (hq : Padding q.toList) :
    LiteralText (inQuotes (p ++ v ++ q)) (.string (p ++ v ++ q)) ∧
      Binary64.ofNumericText? (p ++ v ++ q) = Binary64.read? v.toList := by
  have hnumeral := isNumeral_of_matches hv
  have htext : (p ++ v ++ q).toList = p.toList ++ (v.toList ++ q.toList) := by simp
  refine ⟨literalText_quoted (quotedBody_of_plain fun c hc => ?_),
    Binary64.ofNumericText?_padded hnumeral hp hq htext⟩
  rw [htext, List.mem_append, List.mem_append] at hc
  rcases hc with hc | hc | hc
  · exact plain_of_isPadding (hp c hc)
  · exact plain_of_isNumericChar (List.all_eq_true.mp hnumeral.numeric.1 c hc)
  · exact plain_of_isPadding (hq c hc)

/-- **Quotes around a number do not change loose equality.** Take two numbers, that is digits
perhaps with a point and more digits, and compare them with `==`: as they are, the second one
in quotes, the first one in quotes, or both in quotes, with any padding within the quotes.
All four comparisons have the same boolean as their value, and it is true if the numbers are
the same text. -/
theorem evaluate_numbers_equal (v w p q p' q' : String) (hv : Pattern.number.Matches v.toList)
    (hw : Pattern.number.Matches w.toList) (hp : Padding p.toList) (hq : Padding q.toList)
    (hp' : Padding p'.toList) (hq' : Padding q'.toList) :
    ∃ b : Bool,
      evaluate (v ++ " == " ++ w) = .ok (some (.boolean b)) ∧
      evaluate (v ++ " == " ++ inQuotes (p ++ w ++ q)) = .ok (some (.boolean b)) ∧
      evaluate (inQuotes (p ++ v ++ q) ++ " == " ++ w) = .ok (some (.boolean b)) ∧
      evaluate (inQuotes (p ++ v ++ q) ++ " == " ++ inQuotes (p' ++ w ++ q')) =
        .ok (some (.boolean b)) ∧
      (v = w → b = true) := by
  obtain ⟨x, hx, hne⟩ := Binary64.exists_read? (isNumeral_of_matches hv)
  obtain ⟨y, hy, -⟩ := Binary64.exists_read? (isNumeral_of_matches hw)
  have hleft := literalText_number hv hx
  have hright := literalText_number hw hy
  obtain ⟨hquoted_left, hleft_eq⟩ := literalText_padded hv hp hq
  obtain ⟨hquoted_right, hright_eq⟩ := literalText_padded hw hp hq
  obtain ⟨hquoted_right', hright_eq'⟩ := literalText_padded hw hp' hq'
  rw [hx] at hleft_eq
  rw [hy] at hright_eq hright_eq'
  refine ⟨x.equals y, evaluate_equal hleft hright, ?_, ?_, ?_, ?_⟩
  · rw [evaluate_equal hleft hquoted_right, Value.looselyEqual, Value.numberEqualsString,
      hright_eq, Binary64.equals_comm]
  · rw [evaluate_equal hquoted_left hright, Value.looselyEqual, Value.numberEqualsString,
      hleft_eq]
  · rw [evaluate_equal hquoted_left hquoted_right', Value.looselyEqual,
      Value.stringsLooselyEqual, hleft_eq, hright_eq']
  · rintro rfl
    obtain rfl := Option.some.inj (hx.symm.trans hy)
    exact Binary64.equals_self hne

/-- The theorem at 400 nines, a number past the last double: it equals itself, also with a
form feed, which could not stand outside of the quotes. -/
theorem evaluate_numbers_equal_nines :
    Pattern.number.Matches (String.ofList (List.replicate 400 '9')).toList ∧
      evaluate (String.ofList (List.replicate 400 '9') ++ " == " ++
        inQuotes ("\x0c" ++ String.ofList (List.replicate 400 '9') ++ "\n")) =
          .ok (some (.boolean true)) ∧
      evaluate (inQuotes ("\x0c" ++ String.ofList (List.replicate 400 '9') ++ "\n") ++ " == " ++
        inQuotes ("" ++ String.ofList (List.replicate 400 '9') ++ "\t ")) =
          .ok (some (.boolean true)) := by
  have hnumber : Pattern.number.Matches (String.ofList (List.replicate 400 '9')).toList := by
    rw [String.toList_ofList]
    refine .whole ⟨List.cons_ne_nil _ _, fun c hc => ?_⟩
    rw [List.eq_of_mem_replicate hc]
    rfl
  have hpadding : ∀ s ∈ ["\x0c", "\n", "", "\t "], Padding s.toList := by
    simp [Padding, Binary64.isPadding]
  obtain ⟨b, -, hright, -, hboth, hself⟩ := evaluate_numbers_equal _ _ "\x0c" "\n" "" "\t "
    hnumber hnumber (hpadding _ (by simp)) (hpadding _ (by simp)) (hpadding _ (by simp))
    (hpadding _ (by simp))
  rw [hself rfl] at hright hboth
  exact ⟨hnumber, hright, hboth⟩

end Condition
