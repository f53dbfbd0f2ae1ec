/-
What a text means is in the kinds of its tokens and in its literals.

* `SameWord`: two texts that are the same or spell the same operator;
* `Token.SameMeaning`: tokens of one kind, with one text if they are numbers or strings;
* `alike_of_sameMeaning`: such tokens of two texts are alike, but for the spelling of
  operators;
* `Diagnostic.facts`: the types and limits that a report names;
* `evaluate_respelled`: texts whose tokens mean the same have the same value, or the same
  fault, wherever it is and however the operators are spelled.
-/
import Condition.Program
import Condition.Proofs.Evaluate.Alike
import Condition.Proofs.Parse.Alike
import Condition.Proofs.Parse.Subtree
import Condition.Proofs.Token.MaximalMunch

namespace Condition

/-! ### Spellings -/

/-- Whether tokens of the kind spell an operator. -/
def TokenKind.isOperator (kind : TokenKind) : Bool :=
  kind.binary?.isSome || kind.unary?.isSome

/-- The same text, or two spellings of the same operator. -/
def SameWord (s s' : String) : Prop :=
  s = s' ∨ ∃ kind : TokenKind, kind.isOperator = true ∧ kind.Spells s ∧ kind.Spells s'

/-- Two tokens of one kind, with one text if they are numbers or strings. Their places may
differ, and so may the spellings of an operator. -/
structure Token.SameMeaning (t u : Token) : Prop where
  kind_eq : t.kind = u.kind
  lexeme_eq : t.kind = .numberLiteral ∨ t.kind = .stringLiteral → t.lexeme = u.lexeme

/-- What is no operator has one spelling. -/
lemma pattern_eq_of_kind_eq : ∀ rule ∈ rules, ∀ rule' ∈ rules,
    rule.kind = rule'.kind → rule.kind.isOperator = false → rule.pattern = rule'.pattern := by
  decide

/-- Two spellings of a kind are the same, unless they spell an operator. -/
lemma TokenKind.Spells.sameWord {kind : TokenKind} {s s' : String} (h : kind.Spells s)
    (h' : kind.Spells s') : SameWord s s' := by
  cases hop : kind.isOperator with
  | true => exact .inr ⟨kind, hop, h, h'⟩
  | false =>
      obtain ⟨rule, hrule, rfl, hpattern⟩ := h
      obtain ⟨rule', hrule', hkind, hpattern'⟩ := h'
      have hsame := pattern_eq_of_kind_eq rule hrule rule' hrule' hkind.symm hop
      rw [hpattern, hpattern', Pattern.spelling.injEq] at hsame
      exact .inl (String.toList_injective hsame)

/-! ### Tokens of two texts -/

/-- Numbers and strings have their value from their text, other tokens from their kind. -/
lemma Token.SameMeaning.value?_eq {t u : Token} (h : t.SameMeaning u) : t.value? = u.value? := by
  have hlexeme := h.lexeme_eq
  rw [Token.value?, Token.value?, ← h.kind_eq]
  cases hkind : t.kind with
  | numberLiteral => rw [hlexeme (.inl hkind)]
  | stringLiteral => rw [hlexeme (.inr hkind)]
  | _ => rfl

/-- **Tokens that mean the same** are alike, but for the spelling of operators. -/
lemma Token.SameMeaning.alike {cs ds : List Char} {t u : Token} (h : t.SameMeaning u)
    (ht : LongestMatch cs t.lexeme.toList t.kind) (hu : LongestMatch ds u.lexeme.toList u.kind) :
    Token.Alike SameWord t u := by
  refine ⟨h.kind_eq, h.value?_eq, ?_⟩
  by_cases hliteral : t.kind = .numberLiteral ∨ t.kind = .stringLiteral
  · exact .inl (h.lexeme_eq hliteral)
  · obtain ⟨hnumber, hstring⟩ := not_or.mp hliteral
    rw [← h.kind_eq] at hu
    exact (ht.spells hnumber hstring).sameWord (hu.spells hnumber hstring)

/-- Tokens of two texts that mean the same. -/
lemma alike_of_sameMeaning {source source' : String} {ts us : List Token}
    (hts : tokens source = .ok ts) (hus : tokens source' = .ok us)
    (h : List.Forall₂ Token.SameMeaning ts us) : List.Forall₂ (Token.Alike SameWord) ts us := by
  have hlocated {source : String} {ts : List Token} (hts : tokens source = .ok ts) :
      ∀ t ∈ ts, ∃ cs, LongestMatch cs t.lexeme.toList t.kind := fun t ht => by
    obtain ⟨_, _, -, -, hmatch⟩ := (tokens_eq_ok_iff.mp hts).located ht
    exact ⟨_, hmatch⟩
  rw [List.forall₂_iff_get] at h ⊢
  refine ⟨h.1, fun i hi hi' => ?_⟩
  obtain ⟨_, ht⟩ := hlocated hts _ (List.get_mem ts ⟨i, hi⟩)
  obtain ⟨_, hu⟩ := hlocated hus _ (List.get_mem us ⟨i, hi'⟩)
  exact (h.2 i hi hi').alike ht hu

/-! ### Reports -/

/-- The texts among the parameters of a message. -/
def Message.texts (m : Message) : List String :=
  m.params.filterMap fun
    | .plain s => some s
    | .nested _ => none

/-- The names of types and the limits in a report. The reports of the scanner and of the
parser name none: their parameters quote the text. An operator is quoted in a smaller
message. -/
def Diagnostic.facts (d : Diagnostic) : List String :=
  match d.kind with
  | .lex | .parse => []
  | .type | .missingValue | .limit =>
    d.message.texts ++ ((d.submessage.toList ++ d.hint.toList).map Message.texts).flatten

/-- Alike faults name the same types and limits. -/
lemma Fault.Alike.facts_eq {R : String → String → Prop} {f g : Fault} (h : Fault.Alike R f g) :
    f.diagnostic.facts = g.diagnostic.facts := by
  cases h <;> rfl

/-! ### Values of two texts -/

/-- **Alike tokens have the same value**, or alike faults. -/
lemma evaluate_alike {R : String → String → Prop} {source source' : String} {ts us : List Token}
    (hts : tokens source = .ok ts) (hus : tokens source' = .ok us)
    (h : List.Forall₂ (Token.Alike R) ts us) :
    Agree (Failure.Alike R) Eq (evaluate source) (evaluate source') := by
  have hparse : Agree (Failure.Alike R) (Expr.Alike R) (parse source) (parse source') := by
    rw [parse_of_tokens hts, parse_of_tokens hus]
    exact (parseTokens_alike source.toList source'.toList h).mapError fun _ _ hf => .fault hf
  exact hparse.bind fun _ _ _ he => he.evaluate

/-- **A text means what its tokens and its literals mean.** Of two source texts whose tokens
are of the same kinds, one by one, with the same numbers and strings among them, either
both have the same value, or none, or both have a fault. The two reports are of one kind,
their messages, submessages and hints have the same keys, and they name the same types and
limits. They quote the same words or spellings of the same operators. -/
theorem evaluate_respelled (source source' : String) (ts us : List Token)
    (hts : tokens source = .ok ts) (hus : tokens source' = .ok us)
    (h : List.Forall₂ Token.SameMeaning ts us) :
    (∃ value, evaluate source = .ok value ∧ evaluate source' = .ok value) ∨
      ∃ f f', evaluate source = .error (.fault f) ∧ evaluate source' = .error (.fault f') ∧
        Diagnostic.Alike SameWord f.diagnostic f'.diagnostic ∧
        f.diagnostic.facts = f'.diagnostic.facts := by
  have hagree := evaluate_alike hts hus (alike_of_sameMeaning hts hus h)
  generalize evaluate source = x at hagree ⊢
  generalize evaluate source' = y at hagree ⊢
  cases hagree with
  | ok hvalue => exact .inl ⟨_, rfl, by rw [hvalue]⟩
  | error hfailure =>
      obtain ⟨hfault⟩ := hfailure
      exact .inr ⟨_, _, rfl, rfl, hfault.diagnostic fun _ => .inl rfl, hfault.facts_eq⟩

/-- The negation of a text, spelled in two ways at two distances from the text: both are
refused, and the reports are alike. -/
theorem evaluate_respelled_not :
    ∃ f f', evaluate "! \"a\"" = .error (.fault f) ∧ evaluate "~\"a\"" = .error (.fault f') ∧
      Diagnostic.Alike SameWord f.diagnostic f'.diagnostic ∧
      f.diagnostic.facts = f'.diagnostic.facts := by
  have htext : "! \"a\"".toList = ['!', ' ', '"', 'a', '"'] := by simp
  have htext' : "~\"a\"".toList = ['~', '"', 'a', '"'] := by simp
  have htiled : Tiled 0 "! \"a\"".toList [⟨"!", .not, 0⟩, ⟨"\"a\"", .stringLiteral, 2⟩] := by
    rw [htext]
    refine .of_longest? (m := ⟨.not, 1, by decide⟩) rfl (.blank rfl ?_)
    exact .of_longest? (m := ⟨.stringLiteral, 3, by decide⟩) rfl .nil
  have htiled' : Tiled 0 "~\"a\"".toList [⟨"~", .not, 0⟩, ⟨"\"a\"", .stringLiteral, 1⟩] := by
    rw [htext']
    refine .of_longest? (m := ⟨.not, 1, by decide⟩) rfl ?_
    exact .of_longest? (m := ⟨.stringLiteral, 3, by decide⟩) rfl .nil
  have hsame : List.Forall₂ Token.SameMeaning
      [⟨"!", .not, 0⟩, ⟨"\"a\"", .stringLiteral, 2⟩]
      [⟨"~", .not, 0⟩, ⟨"\"a\"", .stringLiteral, 1⟩] :=
    .cons ⟨rfl, by simp⟩ (.cons ⟨rfl, fun _ => rfl⟩ .nil)
  have hoperand : Derives .unary [⟨"\"a\"", .stringLiteral, 2⟩] [0]
      (.literal (.string "a") ⟨2, 5⟩) := .primary (.literal rfl)
  have hwhole : Derives .unary [⟨"!", .not, 0⟩, ⟨"\"a\"", .stringLiteral, 2⟩] [1, 1]
      (.unary .not "!" (.literal (.string "a") ⟨2, 5⟩) ⟨0, 5⟩ 2) := .prefixed rfl hoperand
  have hparse : parse "! \"a\"" = .ok _ :=
    (parse_eq_ok_iff rfl).mpr ⟨_, _, htiled, hwhole.loosen, fits_zero.mpr ⟨by decide, by decide⟩⟩
  have hvalue : evaluate "! \"a\"" =
      .error (.fault (.invalidType (.unary .not) "!" .boolean .string ⟨2, 5⟩)) := by
    rw [evaluate_of_parse hparse]
    rfl
  rcases evaluate_respelled _ _ _ _ (tokens_eq_ok_iff.mpr htiled) (tokens_eq_ok_iff.mpr htiled')
    hsame with ⟨value, hok, -⟩ | hfault
  · rw [hvalue] at hok
    cases hok
  · exact hfault

end Condition
