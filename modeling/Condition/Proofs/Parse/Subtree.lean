/-
The span of every node of a tree is a text with that node as its tree.

* `parse_eq_ok_iff`: the trees of a source text that has tokens;
* `parse_eq_error`, `parse_eq_fault_iff`: the faults of a source text without a tree;
* `parse_piece`: every node of a tree has a piece of the text, and is the tree of the piece;
* `parse_slice`: a node of a tree is the tree of the text that its span covers, but
  for the place of that text.
-/
import Condition.Program
import Condition.Proofs.Parse.Limit
import Condition.Proofs.Token.Cut

namespace Condition

/-- The trees of a source text, apart from that of a text without tokens. -/
lemma parse_eq_ok_iff {source : String} {e : Expr} (hne : e.isEmpty = false) :
    parse source = .ok e ↔
      ∃ ts opens, Tiled 0 source.toList ts ∧ Derives (.chain .equality) ts opens e ∧
        Fits 0 opens e := by
  constructor
  · intro h
    cases htokens : tokens source with
    | error failure =>
        rw [parse, htokens] at h
        cases h
    | ok ts =>
        have hparse : (parseTokens source.toList ts).mapError Failure.fault = .ok e := by
          rw [parse, htokens] at h
          exact h
        have hts : ts ≠ [] := by
          rintro rfl
          rw [parseTokens, if_pos rfl] at hparse
          obtain rfl := Except.ok.inj hparse
          cases hne
        rcases parseTokens_answer source.toList hts with
          ⟨opens, e', heq, hderives, hfits⟩ | ⟨f, heq, -⟩
        · rw [heq] at hparse
          obtain rfl := Except.ok.inj hparse
          exact ⟨ts, opens, tokens_eq_ok_iff.mp htokens, hderives, hfits⟩
        · rw [heq] at hparse
          cases hparse
  · rintro ⟨ts, opens, htiled, hderives, hfits⟩
    rcases hderives.parseTokens source.toList with ⟨-, heq⟩ | ⟨hbroken, -⟩
    · rw [parse, tokens_eq_ok_iff.mpr htiled]
      show (parseTokens source.toList ts).mapError Failure.fault = .ok e
      rw [heq]
      rfl
    · exact absurd hfits hbroken

/-- **A text without a tree** has a character that starts no token, or it has tokens, and the
parser blames one of them or a parenthesis. -/
lemma parse_eq_error {source : String} {failure : Failure} (h : parse source = .error failure) :
    (∃ before c after, source.toList = before ++ c :: after ∧
        failure = .fault (.unidentified (some c) (Text.width before))) ∨
      ∃ ts f, ts ≠ [] ∧ Tiled 0 source.toList ts ∧ parseTokens source.toList ts = .error f ∧
        Blames source.toList (.wanted 0) [] ts f ∧ failure = .fault f := by
  cases hscan : scan 0 source.toList with
  | error p =>
      obtain ⟨before, c, after, ts, hsource, hp, -⟩ := stuckAt_of_scan hscan
      rw [hp, Nat.zero_add] at hscan
      rw [parse, tokens_eq_error hsource hscan] at h
      obtain rfl := Except.error.inj h
      exact .inl ⟨before, c, after, hsource, rfl⟩
  | ok ts =>
      have htiled := scan_eq_ok_iff.mp hscan
      rw [parse_of_tokens (tokens_eq_ok_iff.mpr htiled)] at h
      by_cases hne : ts = []
      · rw [hne, parseTokens, if_pos rfl] at h
        cases h
      · rcases parseTokens_answer source.toList hne with ⟨opens, e, heq, -⟩ | ⟨f, heq, hblames⟩
        · rw [heq] at h
          cases h
        · rw [heq] at h
          obtain rfl := Except.error.inj h
          exact .inr ⟨ts, f, hne, htiled, heq, hblames, rfl⟩

/-- **The fault of a text of few tokens** is that of the grammar. -/
lemma parse_eq_fault_iff {source : String} {ts : List Token} {f : Fault}
    (hts : tokens source = .ok ts) (hne : ts ≠ []) (hlength : ts.length ≤ maxNesting) :
    parse source = .error (.fault f) ↔
      Blames source.toList (.wanted 0) [] ts f ∧ f.diagnostic.kind = .parse := by
  rw [parse_of_tokens hts, ← parseTokens_eq_error_iff hne hlength]
  cases parseTokens source.toList ts with
  | ok e => exact ⟨nofun, nofun⟩
  | error g => rw [Except.mapError, Except.error.injEq, Except.error.injEq, Failure.fault.injEq]

/-- **A node has a piece of the text.** Its span is that of the piece, and the piece alone has
the node as its tree, as many bytes earlier as there are before it. -/
lemma parse_piece {source : String} {e n : Expr} (h : parse source = .ok e)
    (hne : e.isEmpty = false) (hn : n ∈ e.nodes) :
    ∃ before mid after m, source.toList = before ++ (mid ++ after) ∧ mid ≠ [] ∧
      n.span = ⟨Text.width before, Text.width before + Text.width mid⟩ ∧
      parse (String.ofList mid) = .ok m ∧ m.isEmpty = false ∧ n = m.moved (Text.width before) := by
  obtain ⟨ts, opens, htiled, hderives, hfits⟩ := (parse_eq_ok_iff hne).mp h
  rw [fits_zero] at hfits
  -- the tokens of the node, and their text
  obtain ⟨front, us, back, opens', rfl, hus, hle, hdepth⟩ := hderives.treeWithin hn
  obtain ⟨before, mid, after, hsource, hstart, hstop, hmid⟩ := htiled.cut hus.tokens_ne_nil
  have hspan : n.span = ⟨Text.width before, Text.width before + Text.width mid⟩ := by
    rw [hus.span_eq hus.tokens_ne_nil, hstart, hstop, Nat.zero_add]
  have hpiece : mid ≠ [] := by
    rintro rfl
    exact absurd (hmid.width_pos hus.tokens_ne_nil) (Nat.lt_irrefl 0)
  -- both at the beginning of a text of their own
  obtain ⟨us, htiled', rfl⟩ := hmid.of_moved
  obtain ⟨m, hm, rfl⟩ := hus.of_moved rfl
  refine ⟨before, mid, after, m, hsource, hpiece, hspan, ?_, hm.not_isEmpty, rfl⟩
  rw [parse_eq_ok_iff hm.not_isEmpty, String.toList_ofList]
  refine ⟨us, opens', htiled', hm, fits_zero.mpr ⟨fun k hk => ?_, ?_⟩⟩
  · obtain ⟨k', hk', hkk⟩ := hle k hk
    exact Nat.le_trans hkk (hfits.1 k' hk')
  · rw [Expr.depth_moved] at hdepth
    exact Nat.le_trans hdepth hfits.2

/-- **Every span stands for itself.** The span of a node of a tree is a piece of the
source text, not empty and between two character boundaries, and that piece alone has
the node as its tree, as many bytes earlier as there are before it. -/
theorem parse_slice (source : String) (e : Expr) (h : parse source = .ok e)
    (hne : e.isEmpty = false) (n : Expr) (hn : n ∈ e.nodes) :
    n.span.start < n.span.stop ∧
      Text.IsBoundary source.toList n.span.start ∧ Text.IsBoundary source.toList n.span.stop ∧
      ∃ m, parse (String.ofList (Text.slice source.toList n.span.start n.span.stop)) = .ok m ∧
        m.moved n.span.start = n := by
  obtain ⟨before, mid, after, m, hsource, hpiece, hspan, hparse, -, hmoved⟩ :=
    parse_piece h hne hn
  have hwithin : n.span.Within source.toList := by
    rw [hspan, hsource]
    exact Span.within_append before after hpiece
  refine ⟨hwithin.start_lt_stop, hwithin.isBoundary_start, hwithin.isBoundary_stop, m, ?_, ?_⟩
  · rw [hspan, hsource, Text.slice_append]
    exact hparse
  · rw [hspan, hmoved]

/-- The text `!(true)` behind a wider character: the theorem cuts it out and moves its
tree eight bytes back. -/
theorem parse_slice_not :
    ∃ e, parse "\"ä\" or !(true)" = .ok e ∧ e.isEmpty = false ∧
      ∃ n ∈ e.nodes, n.span = ⟨8, 15⟩ ∧
        ∃ m, parse (String.ofList (Text.slice "\"ä\" or !(true)".toList 8 15)) = .ok m ∧
          m.moved 8 = n := by
  have htext : "\"ä\" or !(true)".toList =
      ['"', 'ä', '"', ' ', 'o', 'r', ' ', '!', '(', 't', 'r', 'u', 'e', ')'] := by simp
  have htiled : Tiled 0 "\"ä\" or !(true)".toList
      [⟨"\"ä\"", .stringLiteral, 0⟩, ⟨"or", .disjunction, 5⟩, ⟨"!", .not, 8⟩,
        ⟨"(", .leftParen, 9⟩, ⟨"true", .trueLiteral, 10⟩, ⟨")", .rightParen, 14⟩] := by
    rw [htext]
    refine .of_longest? (m := ⟨.stringLiteral, 3, by decide⟩) rfl (.blank rfl ?_)
    refine .of_longest? (m := ⟨.disjunction, 2, by decide⟩) rfl (.blank rfl ?_)
    refine .of_longest? (m := ⟨.not, 1, by decide⟩) rfl ?_
    refine .of_longest? (m := ⟨.leftParen, 1, by decide⟩) rfl ?_
    refine .of_longest? (m := ⟨.trueLiteral, 4, by decide⟩) rfl ?_
    exact .of_longest? (m := ⟨.rightParen, 1, by decide⟩) rfl .nil
  have hleft : Derives .unary [⟨"\"ä\"", .stringLiteral, 0⟩] [0]
      (.literal (.string "ä") ⟨0, 4⟩) := .primary (.literal rfl)
  have hinner : Derives .unary [⟨"true", .trueLiteral, 10⟩] [0]
      (.literal (.boolean true) ⟨10, 14⟩) := .primary (.literal rfl)
  have hgroup : Derives .unary
      [⟨"(", .leftParen, 9⟩, ⟨"true", .trueLiteral, 10⟩, ⟨")", .rightParen, 14⟩] [1, 1, 1]
      (.literal (.boolean true) ⟨9, 15⟩) := .primary (.group rfl hinner.loosen rfl)
  have hright : Derives .unary
      [⟨"!", .not, 8⟩, ⟨"(", .leftParen, 9⟩, ⟨"true", .trueLiteral, 10⟩,
        ⟨")", .rightParen, 14⟩] [1, 2, 2, 2]
      (.unary .not "!" (.literal (.boolean true) ⟨9, 15⟩) ⟨8, 15⟩ 2) := .prefixed rfl hgroup
  have hwhole := Derives.joined (hleft.toChain .disjunction) (t := ⟨"or", .disjunction, 5⟩) rfl rfl
    (hright.toOperand .disjunction)
  have hparse : parse "\"ä\" or !(true)" = .ok _ :=
    (parse_eq_ok_iff rfl).mpr ⟨_, _, htiled, hwhole.loosen, fits_zero.mpr ⟨by decide, by decide⟩⟩
  obtain ⟨e, hparse, hne, n, hn, hspan⟩ : ∃ e, parse "\"ä\" or !(true)" = .ok e ∧
      e.isEmpty = false ∧ ∃ n ∈ e.nodes, n.span = ⟨8, 15⟩ :=
    ⟨_, hparse, rfl, _,
      List.mem_cons_of_mem _ (List.mem_append_right _ (Expr.mem_nodes_self _)), rfl⟩
  obtain ⟨-, -, -, m, hm, hmoved⟩ := parse_slice _ e hparse hne n hn
  rw [hspan] at hm hmoved
  exact ⟨e, hparse, hne, n, hn, hspan, m, hm, hmoved⟩

end Condition
