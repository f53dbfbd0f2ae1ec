/-
Every report points into the text.

* `Tiled.span_within`, `parse_span_within`: tokens and nodes are pieces of the text;
* `Blames.span_within`, `evaluate_span_of_error`: so is what the parser and the evaluation
  blame;
* `Level.mem_kinds`: what a level takes for an operator spells one;
* `evaluate_within`: the evaluation of a source text ends with a value or with a fault at
  a piece of the text, and so does the guard of the length.
-/
import Condition.Proofs.Evaluate.FirstCheck
import Condition.Proofs.Parse.Locate
import Condition.Proofs.Parse.Subtree
import Condition.Proofs.Text.Paren
import Condition.Proofs.Token.MaximalMunch

namespace Condition

/-! ### How a text with tokens begins -/

/-- The spellings of the language are made of characters of one byte. -/
lemma utf8Size_eq_one_of_spelling : ∀ rule ∈ rules,
    (match rule.pattern with
      | .spelling text => text.all fun c => c.utf8Size == 1
      | _ => true) = true := by
  decide

lemma utf8Size_eq_one_of_isDigit {c : Char} (h : c.isDigit = true) : c.utf8Size = 1 := by
  rw [Char.utf8Size_eq_one_iff]
  simp only [Char.isDigit, Bool.and_eq_true, decide_eq_true_eq] at h
  exact UInt32.le_trans h.2 (by decide)

lemma utf8Size_eq_one_of_isSkipped {c : Char} (h : isSkipped c = true) : c.utf8Size = 1 := by
  simp only [isSkipped, Bool.or_eq_true, beq_iff_eq] at h
  rcases h with ((((rfl | rfl) | rfl) | rfl) | rfl) | rfl <;> rfl

/-- The text of a rule begins with a character of one byte. -/
lemma Rule.utf8Size_head {rule : Rule} {c : Char} {w : List Char} (hrule : rule ∈ rules)
    (h : rule.pattern.Matches (c :: w)) : c.utf8Size = 1 := by
  have hspelling := utf8Size_eq_one_of_spelling rule hrule
  obtain ⟨c', w', hw, hbegins⟩ := Rule.begins_of_matches hrule h
  obtain ⟨rfl, -⟩ := List.cons.inj hw
  generalize rule.pattern = p at h hspelling hbegins
  cases p with
  | spelling text =>
      cases h
      simp_all
  | number => exact utf8Size_eq_one_of_isDigit hbegins
  | quoted =>
      obtain rfl : c = '"' := by simpa [Pattern.begins] using hbegins
      rfl

/-- A text with tokens begins with a character of one byte. -/
lemma Tiled.utf8Size_head {offset : Nat} {c : Char} {cs : List Char} {ts : List Token}
    (h : Tiled offset (c :: cs) ts) : c.utf8Size = 1 := by
  generalize hcs : c :: cs = text at h
  cases h with
  | nil => cases hcs
  | blank hc =>
      obtain ⟨rfl, -⟩ := List.cons.inj hcs
      exact utf8Size_eq_one_of_isSkipped hc
  | token hw =>
      obtain ⟨d, v, rfl, -⟩ := hw.exists_cons
      obtain ⟨rule, hrule, -, hm⟩ := hw.rule
      obtain ⟨rfl, -⟩ := List.cons.inj hcs
      exact Rule.utf8Size_head hrule hm

/-! ### Tokens, nodes and parentheses -/

section Pieces

variable {source : List Char} {ts : List Token}

/-- **Tokens are pieces of the text.** -/
lemma Tiled.span_within {t : Token} (h : Tiled 0 source ts) (ht : t ∈ ts) :
    t.span.Within source := by
  obtain ⟨before, after, rfl, hoffset, hmatch⟩ := h.located ht
  rw [Nat.zero_add] at hoffset
  rw [Token.span, hoffset]
  exact Span.within_append before after hmatch.ne_nil

/-- **The parenthesis that is reported** is a piece of a text with tokens. -/
lemma Tiled.unclosed_within (h : Tiled 0 source ts) (hne : ts ≠ []) :
    Span.Within ⟨Text.unclosedParen source, Text.unclosedParen source + 1⟩ source := by
  rcases Text.unclosedParen_cases source with ⟨-, hstart⟩ | ⟨front, back, rfl, -, hopen⟩
  · -- the search found nothing: the character at the start of the text is reported
    cases source with
    | nil => exact absurd (h.width_pos hne) (Nat.lt_irrefl 0)
    | cons c cs =>
        have hwithin := Span.within_append [] cs (List.cons_ne_nil c [])
        rw [Text.width_cons, h.utf8Size_head] at hwithin
        rwa [hstart]
  · rw [hopen]
    exact Span.within_append front back (List.cons_ne_nil '(' [])

/-- **What the parser blames** is a piece of the text. -/
lemma Blames.span_within {r : Reading} {f : Fault} (htiled : Tiled 0 source ts) (hne : ts ≠ [])
    (h : Blames source r [] ts f) : f.diagnostic.span.Within source := by
  cases h with
  | unexpected => exact htiled.span_within (by simp)
  | missing =>
      rw [missing_eq source hne]
      exact htiled.span_within (List.getLast_mem hne)
  | unclosed => exact htiled.unclosed_within hne
  | tooDeep ht => exact htiled.span_within ht

end Pieces

/-- **The bytes past a limit** are a piece of a text that has more. -/
lemma overlong_within {source : List Char} {max : Nat} (hlong : max < Text.width source) :
    (Fault.overlong source max).diagnostic.span.Within source := by
  have hsplit := Text.fitting_append_beyond max source
  have hbeyond : Text.beyond max source ≠ [] := by
    intro hnil
    rw [hnil, List.append_nil] at hsplit
    have hle := Text.floorBoundary_le source max
    rw [Text.floorBoundary, hsplit] at hle
    omega
  have hwithin := Span.within_append (Text.fitting max source) [] hbeyond
  rwa [List.append_nil, ← Text.width_append, hsplit] at hwithin

/-- **Nodes are pieces of the text**, and no node of a tree with tokens is blank. -/
lemma parse_span_within {source : String} {e n : Expr} (h : parse source = .ok e)
    (hne : e.isEmpty = false) (hn : n ∈ e.nodes) :
    n.span.Within source.toList ∧ n.isEmpty = false := by
  obtain ⟨before, mid, after, m, hsource, hpiece, hspan, -, hfull, rfl⟩ := parse_piece h hne hn
  rw [hspan, hsource]
  exact ⟨Span.within_append before after hpiece, by rw [Expr.isEmpty_moved, hfull]⟩

/-! ### Parsing and evaluation -/

/-- **What the scanner and the parser blame** is a piece of the text. -/
lemma parse_error_within {source : String} {failure : Failure}
    (h : parse source = .error failure) :
    ∃ f, failure = .fault f ∧ f.diagnostic.span.Within source.toList := by
  rcases parse_eq_error h with
    ⟨before, c, after, hsource, rfl⟩ | ⟨ts, f, hne, htiled, -, hblames, rfl⟩
  · refine ⟨_, rfl, ?_⟩
    rw [hsource]
    exact Span.within_append before after (List.cons_ne_nil c [])
  · exact ⟨f, rfl, hblames.span_within htiled hne⟩

/-- A check blames its own node or the operand that it looks at. -/
lemma Expr.exists_node_of_check {e : Expr} {k : Check} (hk : k ∈ e.checks) :
    ∃ n ∈ e.nodes, k.span = n.span := by
  induction e with
  | empty | literal => cases hk
  | unary op symbol operand span depth ih =>
      rcases List.mem_append.mp hk with hk | hk
      · obtain ⟨n, hn, hspan⟩ := ih hk
        exact ⟨n, List.mem_cons_of_mem _ hn, hspan⟩
      · obtain rfl := List.mem_singleton.mp hk
        exact ⟨operand, List.mem_cons_of_mem _ operand.mem_nodes_self, rfl⟩
  | binary op symbol left right span depth ihl ihr =>
      have hleft (hk : k ∈ left.checks) :
          ∃ n ∈ (binary op symbol left right span depth).nodes, k.span = n.span := by
        obtain ⟨n, hn, hspan⟩ := ihl hk
        exact ⟨n, List.mem_cons_of_mem _ (List.mem_append_left _ hn), hspan⟩
      have hright (hk : k ∈ right.checks) :
          ∃ n ∈ (binary op symbol left right span depth).nodes, k.span = n.span := by
        obtain ⟨n, hn, hspan⟩ := ihr hk
        exact ⟨n, List.mem_cons_of_mem _ (List.mem_append_right _ hn), hspan⟩
      rw [checks] at hk
      cases hop : op.family with
      | logic =>
          simp only [hop, List.mem_append] at hk
          rcases hk with hk | hk
          · exact hleft hk
          · split at hk
            · cases hk
            · exact hright hk
      | equality =>
          simp only [hop, List.mem_append] at hk
          exact hk.elim hleft hright
      | relation =>
          simp only [hop, List.mem_append, List.mem_singleton] at hk
          rcases hk with (hk | rfl) | hk | rfl
          · exact hleft hk
          · exact ⟨_, mem_nodes_self _, rfl⟩
          · exact hright hk
          · exact ⟨_, mem_nodes_self _, rfl⟩

/-- **What an evaluation blames** is a node of the tree. -/
lemma evaluate_span_of_error {e : Expr} {failure : Failure}
    (hfull : ∀ n ∈ e.nodes, n.isEmpty = false) (h : e.evaluate = .error failure) :
    ∃ f, failure = .fault f ∧ ∃ n ∈ e.nodes, f.diagnostic.span = n.span := by
  have hends := Expr.ends_outcome hfull
  rw [Expr.outcome, h, required] at hends
  generalize hks : e.checks = ks at hends
  cases hends with
  | @failed before after k _ _ =>
      have hmem : k ∈ e.checks := by simp [hks]
      exact ⟨k.fault, rfl, Expr.exists_node_of_check hmem⟩

/-! ### The operators of a level -/

/-- The kinds of tokens that a level takes for its operators. -/
def Level.kinds : Level → List TokenKind
  | equality => [.notEquals, .notEquality, .equals, .equality]
  | implication => [.implication]
  | disjunction => [.disjunction]
  | conjunction => [.conjunction]
  | xor => [.xor]
  | comparison => [.greater, .less, .greaterEqual, .lessEqual]

/-- What a level takes for an operator spells one. -/
lemma Level.mem_kinds (level : Level) (kind : TokenKind) :
    kind ∈ level.kinds ↔ ∃ op, kind.binaryAt? level = some op ∧ kind.binary? = some op := by
  cases level <;> cases kind <;> decide

/-! ### Whole source texts -/

/-- **What the evaluation of a source text blames** is a piece of the text. -/
lemma evaluate_error_within {source : String} {failure : Failure}
    (h : evaluate source = .error failure) :
    ∃ f, failure = .fault f ∧ f.diagnostic.span.Within source.toList := by
  cases hparse : parse source with
  | error failure' =>
      rw [evaluate_of_parse_error hparse] at h
      cases h
      exact parse_error_within hparse
  | ok e =>
      rw [evaluate_of_parse hparse] at h
      have hne : e.isEmpty = false := by
        cases e with
        | empty => cases h
        | literal | unary | binary => rfl
      have hnodes (n) (hn : n ∈ e.nodes) := parse_span_within hparse hne hn
      obtain ⟨f, rfl, n, hn, hspan⟩ := evaluate_span_of_error (fun n hn => (hnodes n hn).2) h
      exact ⟨f, rfl, hspan ▸ (hnodes n hn).1⟩

/-- **Every report points into the text.** The evaluation of a source text ends with a value,
or with a fault at a piece of the text that is not empty: no operator is given to a family
that it is not of, and no character is looked for where none begins. All tokens that a
level of the parser takes for its operators spell one. The guard of the length lets a text
pass or reports a piece of it, too. -/
theorem evaluate_within (source : String) :
    ((∃ value, evaluate source = .ok value) ∨
        ∃ f, evaluate source = .error (.fault f) ∧ f.diagnostic.span.Within source.toList) ∧
      (∀ level kind, kind ∈ Level.kinds level ↔
        ∃ op, kind.binaryAt? level = some op ∧ kind.binary? = some op) ∧
      ∀ max, checkLength source max = .ok () ∨
        ∃ f, checkLength source max = .error (.fault f) ∧
          f.diagnostic.span.Within source.toList := by
  refine ⟨?_, Level.mem_kinds, fun max => ?_⟩
  · cases hparse : parse source with
    | error failure =>
        obtain ⟨f, rfl, hwithin⟩ := parse_error_within hparse
        exact .inr ⟨f, evaluate_of_parse_error hparse, hwithin⟩
    | ok e =>
        rw [evaluate_of_parse hparse]
        by_cases hne : e.isEmpty = true
        · cases e with
          | empty => exact .inl ⟨none, rfl⟩
          | literal | unary | binary => cases hne
        have hnodes (n) (hn : n ∈ e.nodes) :=
          parse_span_within hparse (Bool.eq_false_iff.mpr hne) hn
        cases hvalue : e.evaluate with
        | ok value => exact .inl ⟨value, rfl⟩
        | error failure =>
            obtain ⟨f, rfl, n, hn, hspan⟩ :=
              evaluate_span_of_error (fun n hn => (hnodes n hn).2) hvalue
            exact .inr ⟨f, rfl, hspan ▸ (hnodes n hn).1⟩
  · rw [checkLength]
    split
    · next hlong => exact .inr ⟨_, rfl, overlong_within hlong⟩
    · exact .inl rfl

end Condition
