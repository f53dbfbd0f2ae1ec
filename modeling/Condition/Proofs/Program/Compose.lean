/-
Texts put together with an operator.

* `inParens`, `Expr.inParens`: a text in parentheses, and its tree;
* `Composable`: a text that may stand in parentheses under one more operator;
* `Composable.grouped`: such a text in parentheses is one operand, whatever follows it;
* `Means`: what a text means as an operand, wherever a fault is reported;
* `parse_composed`: two texts in parentheses with an operator between them, and one behind
  a prefix operator, have the trees and the values that the texts alone give them.
-/
import Condition.Program
import Condition.Proofs.Evaluate.Alike
import Condition.Proofs.Parse.Subtree
import Condition.Proofs.Token.Seam

namespace Condition

/-! ### Texts in parentheses -/

/-- The text in parentheses. -/
def inParens (source : String) : String := "(" ++ source ++ ")"

lemma toList_inParens (source : String) :
    (inParens source).toList = '(' :: (source.toList ++ [')']) := by
  simp [inParens]

lemma width_inParens (source : String) :
    Text.width (inParens source).toList = Text.width source.toList + 2 := by
  have hopening : Char.utf8Size '(' = 1 := rfl
  have hclosing : Char.utf8Size ')' = 1 := rfl
  rw [toList_inParens, Text.width_cons, Text.width_append, Text.width_cons, Text.width_nil]
  omega

/-- The tree of the text in parentheses, at the offset: everything is further on, and the
root covers the parentheses. -/
def Expr.inParens (source : String) (offset : Nat) (e : Expr) : Expr :=
  (e.moved (offset + 1)).withSpan
    ⟨offset, offset + Text.width (Condition.inParens source).toList⟩

@[simp] lemma Expr.span_inParens (source : String) (offset : Nat) (e : Expr) :
    (e.inParens source offset).span =
      ⟨offset, offset + Text.width (Condition.inParens source).toList⟩ := by
  rw [inParens, span_withSpan]

@[simp] lemma Expr.depth_inParens (source : String) (offset : Nat) (e : Expr) :
    (e.inParens source offset).depth = e.depth := by
  rw [inParens, depth_withSpan, depth_moved]

/-- The text is an expression, and at no token of it are more than `n` parentheses and prefix
operators open. -/
def OpensAtMost (source : String) (n : Nat) : Prop :=
  ∃ ts opens e, tokens source = .ok ts ∧ Derives (.chain .equality) ts opens e ∧
    ∀ k ∈ opens, k ≤ n

/-- **The text may stand in parentheses under one more operator**: it is not blank, and it
leaves room for one more node, one parenthesis and one prefix operator. -/
structure Composable (source : String) (e : Expr) : Prop where
  parse_eq : parse source = .ok e
  not_isEmpty : e.isEmpty = false
  depth_le : e.depth ≤ maxDepth - 1
  opensAtMost : OpensAtMost source (maxNesting - 2)

namespace Composable

variable {source : String} {e : Expr}

/-- The tokens of the text, and what is open at them. -/
lemma derives (h : Composable source e) :
    ∃ ts opens, Tiled 0 source.toList ts ∧ Derives (.chain .equality) ts opens e ∧
      Fits 2 opens e := by
  obtain ⟨ts, opens, htiled, hderives, -⟩ := (parse_eq_ok_iff h.not_isEmpty).mp h.parse_eq
  obtain ⟨ts', opens', e', htokens, hderives', hopens⟩ := h.opensAtMost
  obtain rfl : ts = ts' := by
    rw [tokens_eq_ok_iff.mpr htiled] at htokens
    exact Except.ok.inj htokens
  obtain ⟨rfl, -⟩ := hderives.unique hderives'
  refine ⟨ts, opens, htiled, hderives, fun k hk => ?_, ?_⟩
  · have hle := hopens k hk
    simp only [maxNesting] at hle ⊢
    omega
  · exact Nat.le_trans h.depth_le (Nat.sub_le _ _)

/-- **In parentheses the text is one operand**, whatever follows it. -/
lemma grouped (h : Composable source e) (offset : Nat) :
    ∃ ts opens,
      (∀ rest us, Tiled (offset + Text.width (inParens source).toList) rest us →
        Tiled offset ((inParens source).toList ++ rest) (ts ++ us)) ∧
      Derives .unary ts opens (e.inParens source offset) ∧
      Fits 1 opens (e.inParens source offset) := by
  obtain ⟨ts, opens, htiled, hderives, hfits⟩ := h.derives
  have htiled := htiled.moved (offset + 1)
  rw [Nat.zero_add] at htiled
  have ho : (⟨"(", .leftParen, offset⟩ : Token).kind = .leftParen := rfl
  have hc : (⟨")", .rightParen, offset + 1 + Text.width source.toList⟩ : Token).kind =
      .rightParen := rfl
  have hgroup := Derives.group ho (hderives.moved (offset + 1)) hc
  have hstop : offset + 1 + Text.width source.toList + Text.width ")".toList =
      offset + Text.width (inParens source).toList := by
    have hparen : Text.width ")".toList = 1 := rfl
    rw [width_inParens, hparen]
    omega
  rw [Token.span, hstop] at hgroup
  refine ⟨_, _, fun rest us hrest => ?_, .primary hgroup, (fits_group _).mpr ?_⟩
  · rw [width_inParens] at hrest
    rw [toList_inParens]
    exact htiled.group hrest
  · rw [Fits, Expr.depth_moved]
    exact ⟨by decide, hfits⟩

/-- Behind the spelling of an operator, too, the text in parentheses is one operand. -/
lemma behind (h : Composable source e) {kind : TokenKind} {symbol : String}
    (hsymbol : kind.Spells symbol) (offset : Nat) :
    ∃ ts opens,
      Tiled offset (symbol ++ inParens source).toList (⟨symbol, kind, offset⟩ :: ts) ∧
      Derives .unary ts opens (e.inParens source (offset + Text.width symbol.toList)) ∧
      Fits 1 opens (e.inParens source (offset + Text.width symbol.toList)) := by
  obtain ⟨ts, opens, htiled, hderives, hfits⟩ :=
    h.grouped (offset + Text.width symbol.toList)
  have hend := htiled [] [] .nil
  rw [List.append_nil, List.append_nil, toList_inParens] at hend
  refine ⟨ts, opens, ?_, hderives, hfits⟩
  rw [String.toList_append, toList_inParens]
  exact hsymbol.tiled hend

end Composable

/-! ### What a text means -/

/-- The text has the outcome as an operand, apart from the place of a fault. -/
def Means (source : String) (x : Outcome) : Prop :=
  Agree (Failure.Alike Eq) Eq (evaluate source) (x.map some)

/-- A text with a value means its value. -/
lemma Means.eq_ok {source : String} {x : Outcome} {v : Value} (h : Means source x)
    (hvalue : evaluate source = .ok (some v)) : x = .ok v := by
  rw [Means, hvalue] at h
  cases x with
  | ok w =>
      obtain ⟨hw⟩ := h
      rw [Option.some.inj hw]
  | error => cases h

/-- A tree is like itself further on. -/
lemma Expr.alike_moved (k : Nat) (e : Expr) : Expr.Alike Eq e (e.moved k) := by
  induction e with
  | empty => exact .empty ..
  | literal => exact .literal ..
  | unary op _ _ _ _ ih => exact .unary op _ _ _ rfl ih
  | binary op _ _ _ _ _ ihl ihr => exact .binary op _ _ _ rfl ihl ihr

/-- A tree is like itself in parentheses. -/
lemma Expr.alike_inParens (source : String) (offset : Nat) (e : Expr) :
    Expr.Alike Eq e (e.inParens source offset) := by
  have halike := (e.alike_moved (offset + 1)).withSpan e.span
    ⟨offset, offset + Text.width (Condition.inParens source).toList⟩
  rwa [withSpan_span] at halike

/-- **In parentheses a text means what it means alone.** -/
lemma Composable.means {source : String} {e : Expr} (h : Composable source e) (offset : Nat) :
    Means source (e.inParens source offset).outcome := by
  rw [Means, evaluate_of_parse h.parse_eq, Expr.evaluate_eq_map_outcome h.not_isEmpty]
  exact (e.alike_inParens source offset).outcome.map fun _ _ hvalue => congrArg some hvalue

/-! ### Texts with an operator -/

section Composed

variable {a b symbol : String} {l r : Expr} {kind : TokenKind}

/-- The tree of two texts in parentheses with an operator between them. -/
lemma parse_joined {op : BinaryOperator} (ha : Composable a l) (hb : Composable b r)
    (hop : kind.binary? = some op) (hsymbol : kind.Spells symbol) :
    parse (inParens a ++ symbol ++ inParens b) =
      .ok (.joined op symbol (l.inParens a 0)
        (r.inParens b (Text.width (inParens a ++ symbol).toList))
        ⟨0, Text.width (inParens a ++ symbol ++ inParens b).toList⟩) := by
  obtain ⟨ts, opens, hts, hl, hfits⟩ := ha.grouped 0
  rw [Nat.zero_add] at hts
  obtain ⟨us, opens', hus, hr, hfits'⟩ := hb.behind hsymbol (Text.width (inParens a).toList)
  rw [← Text.width_append, ← String.toList_append] at hr hfits'
  have htiled : Tiled 0 (inParens a ++ symbol ++ inParens b).toList
      (ts ++ ⟨symbol, kind, Text.width (inParens a).toList⟩ :: us) := by
    rw [String.append_assoc, String.toList_append]
    exact hts _ _ hus
  have hjoined := Derives.joined (hl.toChain op.level)
    (t := ⟨symbol, kind, Text.width (inParens a).toList⟩) hop rfl (hr.toOperand op.level)
  rw [Expr.span_inParens, Expr.span_inParens, ← Text.width_append, ← String.toList_append]
    at hjoined
  have hdepth : 1 + max l.depth r.depth ≤ maxDepth := by
    have hl := ha.depth_le
    have hr := hb.depth_le
    simp only [maxDepth] at hl hr ⊢
    omega
  refine (parse_eq_ok_iff rfl).mpr ⟨_, _, htiled, hjoined.loosen, ?_⟩
  rw [fits_joined (Nat.zero_le _), Expr.depth_joined, Expr.depth_inParens, Expr.depth_inParens]
  exact ⟨hfits.mono (Nat.zero_le 1), hfits'.mono (Nat.zero_le 1), hdepth⟩

/-- The tree of a text in parentheses behind a prefix operator. -/
lemma parse_prefixed {op : UnaryOperator} (ha : Composable a l) (hop : kind.unary? = some op)
    (hsymbol : kind.Spells symbol) :
    parse (symbol ++ inParens a) =
      .ok (.prefixed op symbol (l.inParens a (Text.width symbol.toList))
        ⟨0, Text.width (symbol ++ inParens a).toList⟩) := by
  obtain ⟨ts, opens, htiled, hl, hfits⟩ := ha.behind hsymbol 0
  rw [Nat.zero_add] at hl hfits
  have hprefixed := Derives.prefixed (t := ⟨symbol, kind, 0⟩) hop hl
  rw [Expr.span_inParens, ← Text.width_append, ← String.toList_append] at hprefixed
  have hdepth : 1 + l.depth ≤ maxDepth := by
    have hl := ha.depth_le
    simp only [maxDepth] at hl ⊢
    omega
  refine (parse_eq_ok_iff rfl).mpr ⟨_, _, htiled, hprefixed.loosen, ?_⟩
  rw [fits_prefixed, Expr.depth_prefixed, Expr.depth_inParens]
  exact ⟨by decide, hfits, hdepth⟩

end Composed

/-- **Composed texts.** Take texts that may stand in parentheses under one more operator. Two
of them in parentheses, with a spelling of an infix operator between them and nothing else,
are that operation on their trees, each moved to its place and widened to its parentheses.
One of them behind a spelling of a prefix operator is that operation on its tree. The
composed texts have the values that the operator gives to what the texts mean alone. -/
theorem parse_composed (a : String) (l : Expr) (ha : Composable a l) :
    (∀ (b : String) (r : Expr), Composable b r →
      ∀ (kind : TokenKind) (op : BinaryOperator) (symbol : String),
        kind.binary? = some op → kind.Spells symbol →
        parse (inParens a ++ symbol ++ inParens b) =
          .ok (.joined op symbol (l.inParens a 0)
            (r.inParens b (Text.width (inParens a ++ symbol).toList))
            ⟨0, Text.width (inParens a ++ symbol ++ inParens b).toList⟩) ∧
        ∃ x y, Means a x ∧ Means b y ∧
          evaluate (inParens a ++ symbol ++ inParens b) =
            (applyBinary op symbol ⟨0, Text.width (inParens a ++ symbol ++ inParens b).toList⟩
              x y).map some) ∧
    ∀ (kind : TokenKind) (op : UnaryOperator) (symbol : String),
      kind.unary? = some op → kind.Spells symbol →
      parse (symbol ++ inParens a) =
        .ok (.prefixed op symbol (l.inParens a (Text.width symbol.toList))
          ⟨0, Text.width (symbol ++ inParens a).toList⟩) ∧
      ∃ x, Means a x ∧
        evaluate (symbol ++ inParens a) =
          (applyUnary op symbol
            ⟨Text.width symbol.toList, Text.width (symbol ++ inParens a).toList⟩ x).map some := by
  refine ⟨fun b r hb kind op symbol hop hsymbol => ?_, fun kind op symbol hop hsymbol => ?_⟩
  · have hparse := parse_joined ha hb hop hsymbol
    refine ⟨hparse, _, _, ha.means 0, hb.means (Text.width (inParens a ++ symbol).toList), ?_⟩
    rw [evaluate_of_parse hparse]
    exact Expr.evaluate_binary ..
  · have hparse := parse_prefixed ha hop hsymbol
    refine ⟨hparse, _, ha.means (Text.width symbol.toList), ?_⟩
    rw [evaluate_of_parse hparse, Expr.prefixed, Expr.evaluate_unary, Expr.span_inParens,
      String.toList_append, Text.width_append]

/-- The disjunction `true or false` is one operand of `&&` in parentheses, although `&&` binds
more tightly: the composed text is false and not true. -/
theorem parse_composed_or :
    ∃ l r, Composable "true or false" l ∧ Composable "false" r ∧
      parse (inParens "true or false" ++ "&&" ++ inParens "false") =
        .ok (.joined .and "&&" (l.inParens "true or false" 0) (r.inParens "false" 17) ⟨0, 24⟩) ∧
      evaluate (inParens "true or false" ++ "&&" ++ inParens "false") =
        .ok (some (.boolean false)) := by
  have htext : "true or false".toList =
      ['t', 'r', 'u', 'e', ' ', 'o', 'r', ' ', 'f', 'a', 'l', 's', 'e'] := by simp
  have htext' : "false".toList = ['f', 'a', 'l', 's', 'e'] := by simp
  have htiled : Tiled 0 "true or false".toList
      [⟨"true", .trueLiteral, 0⟩, ⟨"or", .disjunction, 5⟩, ⟨"false", .falseLiteral, 8⟩] := by
    rw [htext]
    refine .of_longest? (m := ⟨.trueLiteral, 4, by decide⟩) rfl (.blank rfl ?_)
    refine .of_longest? (m := ⟨.disjunction, 2, by decide⟩) rfl (.blank rfl ?_)
    exact .of_longest? (m := ⟨.falseLiteral, 5, by decide⟩) rfl .nil
  have htiled' : Tiled 0 "false".toList [⟨"false", .falseLiteral, 0⟩] := by
    rw [htext']
    exact .of_longest? (m := ⟨.falseLiteral, 5, by decide⟩) rfl .nil
  have hleft : Derives .unary [⟨"true", .trueLiteral, 0⟩] [0]
      (.literal (.boolean true) ⟨0, 4⟩) := .primary (.literal rfl)
  have hright : Derives .unary [⟨"false", .falseLiteral, 8⟩] [0]
      (.literal (.boolean false) ⟨8, 13⟩) := .primary (.literal rfl)
  have hor := Derives.joined (hleft.toChain .disjunction) (t := ⟨"or", .disjunction, 5⟩) rfl rfl
    (hright.toOperand .disjunction)
  have hfalse : Derives .unary [⟨"false", .falseLiteral, 0⟩] [0]
      (.literal (.boolean false) ⟨0, 5⟩) := .primary (.literal rfl)
  have hl : Composable "true or false" _ :=
    ⟨(parse_eq_ok_iff rfl).mpr ⟨_, _, htiled, hor.loosen, fits_zero.mpr ⟨by decide, by decide⟩⟩,
      rfl, by decide, _, _, _, tokens_eq_ok_iff.mpr htiled, hor.loosen, by decide⟩
  have hr : Composable "false" _ :=
    ⟨(parse_eq_ok_iff rfl).mpr ⟨_, _, htiled', hfalse.loosen, fits_zero.mpr ⟨by decide, by decide⟩⟩,
      rfl, by decide, _, _, _, tokens_eq_ok_iff.mpr htiled', hfalse.loosen, by decide⟩
  have hspelled : TokenKind.Spells .conjunction "&&" :=
    ⟨.spelled .conjunction "&&", by decide, rfl, rfl⟩
  obtain ⟨hparse, x, y, hx, hy, hvalue⟩ :=
    (parse_composed _ _ hl).1 _ _ hr _ _ _ rfl hspelled
  have hleft_value : evaluate "true or false" = .ok (some (.boolean true)) :=
    evaluate_of_parse hl.parse_eq
  have hright_value : evaluate "false" = .ok (some (.boolean false)) :=
    evaluate_of_parse hr.parse_eq
  rw [hx.eq_ok hleft_value, hy.eq_ok hright_value] at hvalue
  exact ⟨_, _, hl, hr, hparse, hvalue⟩

end Condition
