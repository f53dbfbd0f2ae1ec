/-
How the nodes of a tree tile their text.

* `Tiled.of_head`, `Tiled.of_left`, `Tiled.of_right`: where a token and the phrases beside it
  stand;
* `CoreText`: the text of a literal, or of an operator with exactly those of its operands;
* `Layout`: the text of a node, which is its core in parentheses;
* `Derives.exists_layout`: every phrase of a text is laid out so;
* `parse_layout`: and with it every node of the tree of a source text.
-/
import Condition.Proofs.Grammar.Core
import Condition.Proofs.Parse.Limit
import Condition.Proofs.Parse.Subtree
import Condition.Proofs.Token.Paren

namespace Condition

open Text

variable {offset : Nat} {cs : List Char} {ts : List Token}

/-! ### Texts of tokens -/

/-- A text that begins with its first token. -/
lemma Tiled.of_head {t : Token} (h : Tiled offset cs (t :: ts)) (hstart : t.offset = offset) :
    ∃ after, cs = t.lexeme.toList ++ after ∧ Tiled t.span.stop after ts := by
  have hsplit : Tiled offset cs ([] ++ t :: ts) := h
  obtain ⟨before, after, rfl, hoffset, -, -, hafter⟩ := hsplit.split
  obtain rfl : before = [] := width_eq_zero.mp (by omega)
  exact ⟨after, rfl, hafter⟩

/-- The text of a phrase behind a token. -/
lemma Tiled.of_right {p : Phrase} {opens : List Nat} {e : Expr} (h : Tiled offset cs ts)
    (he : Derives p ts opens e)
    (hstop : (ts.getLast he.tokens_ne_nil).span.stop = offset + width cs) :
    ∃ blanks text, cs = blanks ++ text ∧ (∀ c ∈ blanks, isSkipped c = true) ∧
      e.span = ⟨offset + width blanks, offset + width blanks + width text⟩ := by
  have hsplit : Tiled offset cs ([] ++ ts) := h
  obtain ⟨blanks, text, rfl, hhead, hblanks, -⟩ := hsplit.from_head he.tokens_ne_nil
  refine ⟨blanks, text, rfl, Tiled.nil_iff.mp hblanks, ?_⟩
  rw [he.span_eq he.tokens_ne_nil, hhead, hstop, width_append, Nat.add_assoc]

/-- The text of a phrase before a token. -/
lemma Tiled.of_left {p : Phrase} {opens : List Nat} {e : Expr} (h : Tiled offset cs ts)
    (he : Derives p ts opens e) (hstart : (ts.head he.tokens_ne_nil).offset = offset) :
    ∃ text blanks, cs = text ++ blanks ∧ (∀ c ∈ blanks, isSkipped c = true) ∧
      e.span = ⟨offset, offset + width text⟩ := by
  rw [← List.append_nil ts] at h
  obtain ⟨text, blanks, rfl, hlast, -, hblanks⟩ := h.upto_last he.tokens_ne_nil
  refine ⟨text, blanks, rfl, Tiled.nil_iff.mp hblanks, ?_⟩
  rw [he.span_eq he.tokens_ne_nil, hstart, hlast]

/-! ### Texts of nodes -/

/-- **The core of a node's text**, with the offset where it starts. The offsets say which pieces of
it the spans of the operands are. -/
inductive CoreText (ts : List Token) : Nat → List Char → Expr → Prop where
  /-- A literal is its token. -/
  | literal {t : Token} {v : Value} {span : Span} (ht : t ∈ ts) (hv : t.value? = some v) :
      CoreText ts t.offset t.lexeme.toList (.literal v span)
  /-- A prefix operator is its token, skipped characters, and the text of the operand. -/
  | unary {t : Token} {op : UnaryOperator} {operand : Expr} {span : Span} {depth : Nat}
      {blanks text : List Char} (ht : t ∈ ts) (hop : t.kind.unary? = some op)
      (hblanks : ∀ c ∈ blanks, isSkipped c = true)
      (hoperand : operand.span =
        ⟨t.span.stop + width blanks, t.span.stop + width blanks + width text⟩) :
      CoreText ts t.offset (t.lexeme.toList ++ (blanks ++ text))
        (.unary op t.lexeme operand span depth)
  /-- An infix operator is the text of the left operand, its token, and the text of the right
  operand, with skipped characters between. -/
  | binary {t : Token} {op : BinaryOperator} {l r : Expr} {span : Span} {depth start : Nat}
      {left blanks blanks' right : List Char} (ht : t ∈ ts) (hop : t.kind.binary? = some op)
      (hleft : l.span = ⟨start, start + width left⟩)
      (hblanks : ∀ c ∈ blanks, isSkipped c = true)
      (hoffset : t.offset = start + width left + width blanks)
      (hblanks' : ∀ c ∈ blanks', isSkipped c = true)
      (hright : r.span =
        ⟨t.span.stop + width blanks', t.span.stop + width blanks' + width right⟩) :
      CoreText ts start (left ++ (blanks ++ (t.lexeme.toList ++ (blanks' ++ right))))
        (.binary op t.lexeme l r span depth)

/-- **The core of a phrase has its text**, if the text begins and ends with it. -/
lemma CoreOf.coreText {us : List Token} {e : Expr} (h : CoreOf us e) (hus : ∀ t ∈ us, t ∈ ts)
    (htiled : Tiled offset cs us) (hstart : (us.head h.tokens_ne_nil).offset = offset)
    (hstop : (us.getLast h.tokens_ne_nil).span.stop = offset + width cs) :
    CoreText ts offset cs e := by
  cases h with
  | @literal t v span hv =>
      obtain rfl : t.offset = offset := hstart
      obtain ⟨after, rfl, -⟩ := htiled.of_head rfl
      obtain rfl : after = [] := by
        simp only [List.getLast_singleton, Token.span, width_append] at hstop
        exact width_eq_zero.mp (by omega)
      rw [List.append_nil]
      exact .literal (hus t List.mem_cons_self) hv
  | @unary t op p us opens operand span depth ht h =>
      obtain rfl : t.offset = offset := hstart
      obtain ⟨after, rfl, hafter⟩ := htiled.of_head rfl
      have hlast : (us.getLast h.tokens_ne_nil).span.stop = t.span.stop + width after := by
        rw [← List.getLast_cons h.tokens_ne_nil, hstop, width_append, ← Nat.add_assoc, Token.span]
      obtain ⟨blanks, text, rfl, hblanks, hoperand⟩ := hafter.of_right h hlast
      exact .unary (hus t List.mem_cons_self) ht hblanks hoperand
  | @binary t op p q us us' opens opens' l r span depth hl ht hr =>
      obtain ⟨before, after, rfl, hoffset, -, hbefore, hafter⟩ := htiled.split
      rw [List.head_append_of_ne_nil hl.tokens_ne_nil] at hstart
      rw [List.getLast_append_of_ne_nil _ (List.cons_ne_nil _ _),
        List.getLast_cons hr.tokens_ne_nil] at hstop
      have hlast : (us'.getLast hr.tokens_ne_nil).span.stop = t.span.stop + width after := by
        rw [hstop]
        simp only [Token.span, hoffset, width_append, Nat.add_assoc]
      obtain ⟨left, blanks, rfl, hblanks, hleft⟩ := hbefore.of_left hl hstart
      obtain ⟨blanks', right, rfl, hblanks', hright⟩ := hafter.of_right hr hlast
      rw [width_append, ← Nat.add_assoc] at hoffset
      rw [List.append_assoc]
      exact .binary (hus t (by simp)) ht hleft hblanks hoffset hblanks' hright

/-- **The text of a node** `n` of a source text: opening parentheses, the core, and as many closing
parentheses, with skipped characters between. -/
structure Layout (ts : List Token) (source : List Char) (n : Expr)
    (before opens core closes after : List Char) : Prop where
  source_eq : source = before ++ (opens ++ (core ++ (closes ++ after)))
  span_eq : n.span = ⟨width before, width before + width (opens ++ (core ++ closes))⟩
  opens_chars : ∀ c ∈ opens, c = '(' ∨ isSkipped c = true
  closes_chars : ∀ c ∈ closes, c = ')' ∨ isSkipped c = true
  count_eq : opens.count '(' = closes.count ')'
  core : CoreText ts (width before + width opens) core n

/-- **Every phrase of a text is laid out** where it stands. -/
lemma Derives.exists_layout {source : List Char} {p : Phrase} {front us back : List Token}
    {opens : List Nat} {n : Expr} (h : Derives p us opens n)
    (htiled : Tiled 0 source (front ++ us ++ back)) :
    ∃ before opens core closes after,
      Layout (front ++ us ++ back) source n before opens core closes after := by
  obtain ⟨before, mid, after, rfl, hhead, hlast, -, hmid, -⟩ := htiled.cut_around h.tokens_ne_nil
  rw [Nat.zero_add] at hhead hlast hmid
  have hspan : n.span = ⟨width before, width before + width mid⟩ := by
    rw [h.span_eq h.tokens_ne_nil, hhead, hlast]
  -- the parentheses of the phrase, and the text between them
  obtain ⟨front', core, back', rfl, hcore, hfront, hback, hlength⟩ := h.exists_core
  obtain ⟨opens', text, closes, rfl, hstart, hstop, hopens, htext, hcloses⟩ :=
    hmid.cut_around hcore.tokens_ne_nil
  obtain ⟨hopens_chars, hopens_count⟩ :=
    hopens.of_parens fun t ht => Token.paren?_eq_opening.mpr (hfront t ht)
  obtain ⟨hcloses_chars, hcloses_count⟩ :=
    hcloses.of_parens fun t ht => Token.paren?_eq_closing.mpr (hback t ht)
  refine ⟨before, opens', text, closes, after, ?_, hspan, hopens_chars, hcloses_chars, ?_, ?_⟩
  · simp only [List.append_assoc]
  · exact (hopens_count.trans hlength).trans hcloses_count.symm
  · exact hcore.coreText (by simp +contextual) htext hstart hstop

/-! ### Spans of nodes -/

/-- **The spans of the operands** are within that of the node, in their order. -/
lemma Layout.operands {source before opens core closes after : List Char} {n : Expr}
    (h : Layout ts source n before opens core closes after) :
    (∀ m ∈ n.operands, n.span.start ≤ m.span.start ∧ m.span.stop ≤ n.span.stop) ∧
      n.operands.Pairwise fun l r => l.span.stop ≤ r.span.start := by
  have hcore := h.core
  rw [h.span_eq]
  simp only [width_append]
  generalize hstart : width before + width opens = start at hcore
  cases hcore with
  | literal => exact ⟨List.forall_mem_nil _, .nil⟩
  | unary _ _ _ hoperand =>
      simp only [Token.span] at hoperand
      simp only [Expr.operands, List.forall_mem_singleton, hoperand, width_append]
      exact ⟨by omega, List.pairwise_singleton _ _⟩
  | binary _ _ hleft _ hoffset _ hright =>
      simp only [Token.span, hoffset] at hright
      simp only [Expr.operands, List.forall_mem_cons, List.pairwise_pair, hleft, hright,
        width_append]
      exact ⟨⟨by omega, by omega, List.forall_mem_nil _⟩, by omega⟩

/-! ### Source texts -/

/-- **Spans tile the text**, and nothing is lost. The text of every node is laid out as its core in
parentheses, the core being the token of a literal, or the token of an operator with exactly the
texts of the operands, and there are only skipped characters between. So the spans of operands
are within that of their node, those on the left end before those on the right begin, and the
text outside of the whole tree is skipped. -/
theorem parse_layout (source : String) (e : Expr) (h : parse source = .ok e)
    (hne : e.isEmpty = false) :
    (∃ ts, tokens source = .ok ts ∧ ∀ n ∈ e.nodes, ∃ before opens core closes after,
        Layout ts source.toList n before opens core closes after) ∧
      (∀ n ∈ e.nodes,
        (∀ m ∈ n.operands, n.span.start ≤ m.span.start ∧ m.span.stop ≤ n.span.stop) ∧
          n.operands.Pairwise fun l r => l.span.stop ≤ r.span.start) ∧
      ∃ before text after, source.toList = before ++ (text ++ after) ∧
        e.span = ⟨width before, width before + width text⟩ ∧
        ∀ c ∈ before ++ after, isSkipped c = true := by
  obtain ⟨ts, opens, htiled, hderives, -⟩ := (parse_eq_ok_iff hne).mp h
  have hlayout : ∀ n ∈ e.nodes, ∃ before opens core closes after,
      Layout ts source.toList n before opens core closes after := by
    intro n hn
    obtain ⟨front, us, back, opens', rfl, hus, -⟩ := hderives.treeWithin hn
    exact hus.exists_layout htiled
  refine ⟨⟨ts, tokens_eq_ok_iff.mpr htiled, hlayout⟩, fun n hn => ?_, ?_⟩
  · obtain ⟨_, _, _, _, _, hn⟩ := hlayout n hn
    exact hn.operands
  · have hwhole : Tiled 0 source.toList ([] ++ ts ++ []) := by simpa using htiled
    obtain ⟨before, text, after, hsource, hhead, hlast, hbefore, -, hafter⟩ :=
      hwhole.cut_around hderives.tokens_ne_nil
    rw [Nat.zero_add] at hhead hlast
    refine ⟨before, text, after, hsource, ?_, ?_⟩
    · rw [hderives.span_eq hderives.tokens_ne_nil, hhead, hlast]
    · exact List.forall_mem_append.mpr ⟨Tiled.nil_iff.mp hbefore, Tiled.nil_iff.mp hafter⟩

/-- The theorem at `(! (true) )`, where the pairs of parentheses belong to two nodes. -/
theorem parse_layout_group :
    parse "(! (true) )" =
        .ok (.unary .not "!" (.literal (.boolean true) ⟨3, 9⟩) ⟨0, 11⟩ 2) ∧
      (Expr.unary .not "!" (.literal (.boolean true) ⟨3, 9⟩) ⟨0, 11⟩ 2).isEmpty = false ∧
      ∃ ts, tokens "(! (true) )" = .ok ts ∧ ∃ before opens core closes after,
        Layout ts "(! (true) )".toList (.literal (.boolean true) ⟨3, 9⟩) before opens core closes
          after := by
  have htokens : tokens "(! (true) )" = .ok [⟨"(", .leftParen, 0⟩, ⟨"!", .not, 1⟩,
      ⟨"(", .leftParen, 3⟩, ⟨"true", .trueLiteral, 4⟩, ⟨")", .rightParen, 8⟩,
      ⟨")", .rightParen, 10⟩] := by decide +kernel
  have hinner : Derives .unary [⟨"true", .trueLiteral, 4⟩] [0] (.literal (.boolean true) ⟨4, 8⟩) :=
    .primary (.literal rfl)
  have hgroup : Derives .unary
      [⟨"(", .leftParen, 3⟩, ⟨"true", .trueLiteral, 4⟩, ⟨")", .rightParen, 8⟩] [1, 1, 1]
      (.literal (.boolean true) ⟨3, 9⟩) := .primary (.group rfl hinner.loosen rfl)
  have hnot : Derives .unary
      [⟨"!", .not, 1⟩, ⟨"(", .leftParen, 3⟩, ⟨"true", .trueLiteral, 4⟩, ⟨")", .rightParen, 8⟩]
      [1, 2, 2, 2] (.unary .not "!" (.literal (.boolean true) ⟨3, 9⟩) ⟨1, 9⟩ 2) :=
    .prefixed rfl hgroup
  have hwhole : Derives .unary [⟨"(", .leftParen, 0⟩, ⟨"!", .not, 1⟩, ⟨"(", .leftParen, 3⟩,
      ⟨"true", .trueLiteral, 4⟩, ⟨")", .rightParen, 8⟩, ⟨")", .rightParen, 10⟩] [1, 2, 3, 3, 3, 1]
      (.unary .not "!" (.literal (.boolean true) ⟨3, 9⟩) ⟨0, 11⟩ 2) :=
    .primary (.group rfl hnot.loosen rfl)
  have hparse : parse "(! (true) )" =
      .ok (.unary .not "!" (.literal (.boolean true) ⟨3, 9⟩) ⟨0, 11⟩ 2) :=
    (parse_eq_ok_iff rfl).mpr ⟨_, _, tokens_eq_ok_iff.mp htokens, hwhole.loosen,
      fits_zero.mpr ⟨by decide, by decide⟩⟩
  obtain ⟨⟨ts, hts, hlayout⟩, -⟩ := parse_layout _ _ hparse rfl
  exact ⟨hparse, rfl, ts, hts, hlayout _ (List.mem_cons_of_mem _ (Expr.mem_nodes_self _))⟩

end Condition
