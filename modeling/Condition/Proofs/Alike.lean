/-
What differs only in places and in the spelling of operators.

The relation `R` says which texts may stand for each other; places may always differ.

* `Token.Alike`, `Cursor.Alike`, `Expr.Alike`: tokens of one kind and one value, and
  trees of one shape;
* `Fault.Alike`, `Diagnostic.Alike`: faults of one kind about alike tokens, and reports
  with the same keys and alike parameters (`Fault.Alike.diagnostic`);
* `Agree`: two computations that both succeed, or both fail, and with what is related;
  `Agree.bind` puts computations one after the other.
-/
import Mathlib.Data.List.Forall2
import Mathlib.Data.Option.Basic
import Mathlib.Tactic.Lemma
import Condition.Expr.Parse

namespace Condition

variable (R : String → String → Prop)

/-! ### Tokens and trees -/

/-- Two tokens of one kind that stand for the same value, if they stand for one. -/
structure Token.Alike (t u : Token) : Prop where
  kind_eq : t.kind = u.kind
  value?_eq : t.value? = u.value?
  lexeme : R t.lexeme u.lexeme

/-- Two places with alike tokens before them and after them. -/
structure Cursor.Alike (c d : Cursor) : Prop where
  passed : List.Forall₂ (Token.Alike R) c.passed d.passed
  rest : List.Forall₂ (Token.Alike R) c.rest d.rest
  nesting_eq : c.nesting = d.nesting

/-- Two trees of one shape, with the same operators, values and depths. -/
inductive Expr.Alike : Expr → Expr → Prop where
  | empty (s s' : Span) : Alike (.empty s) (.empty s')
  | literal (value : Value) (s s' : Span) : Alike (.literal value s) (.literal value s')
  | unary {symbol symbol' : String} {operand operand' : Expr} (op : UnaryOperator)
      (s s' : Span) (depth : Nat) (hsymbol : R symbol symbol') (h : Alike operand operand') :
      Alike (.unary op symbol operand s depth) (.unary op symbol' operand' s' depth)
  | binary {symbol symbol' : String} {left left' right right' : Expr} (op : BinaryOperator)
      (s s' : Span) (depth : Nat) (hsymbol : R symbol symbol') (hl : Alike left left')
      (hr : Alike right right') :
      Alike (.binary op symbol left right s depth) (.binary op symbol' left' right' s' depth)

/-! ### Faults and reports -/

/-- Two faults of one kind, about alike tokens or about the same operator and types. -/
inductive Fault.Alike : Fault → Fault → Prop where
  | unexpected {t u : Token} (h : Token.Alike R t u) (side : Side) :
      Alike (.unexpected t side) (.unexpected u side)
  | unexpectedEnd (i j : Nat) : Alike (.unexpectedEnd i) (.unexpectedEnd j)
  | unclosed (i j : Nat) : Alike (.unclosed i) (.unclosed j)
  | tooDeep {t u : Token} (h : Token.Alike R t u) (limit : Nat) :
      Alike (.tooDeep t limit) (.tooDeep u limit)
  | invalidType {symbol symbol' : String} (operator : Operator) (expected actual : ValueType)
      (s s' : Span) (hsymbol : R symbol symbol') :
      Alike (.invalidType operator symbol expected actual s)
        (.invalidType operator symbol' expected actual s')
  | missingValue (s s' : Span) : Alike (.missingValue s) (.missingValue s')

/-- Two failures that are alike faults. -/
inductive Failure.Alike : Failure → Failure → Prop where
  | fault {f g : Fault} (h : Fault.Alike R f g) : Alike (.fault f) (.fault g)

/-- Two parameters of one shape, with the same keys and related texts. -/
inductive Param.Alike : Param → Param → Prop where
  | plain {s s' : String} (h : R s s') : Alike (.plain s) (.plain s')
  | nested {ps qs : List Param} (key : String) (h : List.Forall₂ Alike ps qs) :
      Alike (.nested (.mk key ps)) (.nested (.mk key qs))

/-- Two messages with one key and alike parameters. -/
def Message.Alike (m m' : Message) : Prop :=
  m.key = m'.key ∧ List.Forall₂ (Param.Alike R) m.params m'.params

/-- Two reports of one kind whose messages, submessages and hints are alike. -/
structure Diagnostic.Alike (d d' : Diagnostic) : Prop where
  kind_eq : d.kind = d'.kind
  message : Message.Alike R d.message d'.message
  submessage : Option.Rel (Message.Alike R) d.submessage d'.submessage
  hint : Option.Rel (Message.Alike R) d.hint d'.hint

variable {R}

/-! ### Alike trees -/

/-- Alike trees are equally deep. -/
lemma Expr.Alike.depth_eq {e e' : Expr} (h : Expr.Alike R e e') : e.depth = e'.depth := by
  cases h <;> rfl

/-- The place of a tree is of no account. -/
lemma Expr.Alike.withSpan {e e' : Expr} (h : Expr.Alike R e e') (s s' : Span) :
    Expr.Alike R (e.withSpan s) (e'.withSpan s') := by
  cases h with
  | empty => exact .empty ..
  | literal => exact .literal ..
  | unary op _ _ depth hsymbol h => exact .unary op _ _ depth hsymbol h
  | binary op _ _ depth hsymbol hl hr => exact .binary op _ _ depth hsymbol hl hr

lemma Expr.Alike.prefixed {e e' : Expr} {symbol symbol' : String} (h : Expr.Alike R e e')
    (op : UnaryOperator) (hsymbol : R symbol symbol') (s s' : Span) :
    Expr.Alike R (.prefixed op symbol e s) (.prefixed op symbol' e' s') := by
  rw [Expr.prefixed, Expr.prefixed, h.depth_eq]
  exact .unary op _ _ _ hsymbol h

lemma Expr.Alike.joined {l l' r r' : Expr} {symbol symbol' : String} (hl : Expr.Alike R l l')
    (hr : Expr.Alike R r r') (op : BinaryOperator) (hsymbol : R symbol symbol') (s s' : Span) :
    Expr.Alike R (.joined op symbol l r s) (.joined op symbol' l' r' s') := by
  rw [Expr.joined, Expr.joined, hl.depth_eq, hr.depth_eq]
  exact .binary op _ _ _ hsymbol hl hr

/-! ### Alike faults -/

/-- Messages of one text with one key are alike if the texts are related. -/
lemma Message.Alike.plain (key : String) {s s' : String} (h : R s s') :
    Message.Alike R (Fault.plainMessage key [s]) (Fault.plainMessage key [s']) :=
  ⟨rfl, .cons (.plain h) .nil⟩

/-- A message without parameters from the source is like itself. -/
lemma Message.Alike.refl (hR : ∀ s, R s s) (key : String) (texts : List String) :
    Message.Alike R (Fault.plainMessage key texts) (Fault.plainMessage key texts) := by
  refine ⟨rfl, ?_⟩
  show List.Forall₂ (Param.Alike R) (texts.map .plain) (texts.map .plain)
  rw [List.forall₂_map_left_iff, List.forall₂_map_right_iff]
  exact List.forall₂_same.mpr fun s _ => .plain (hR s)

/-- **Alike faults have alike reports.** -/
theorem Fault.Alike.diagnostic (hR : ∀ s, R s s) {f g : Fault} (h : Fault.Alike R f g) :
    Diagnostic.Alike R f.diagnostic g.diagnostic := by
  cases h with
  | unexpected h side =>
      refine ⟨rfl, .plain _ h.lexeme, .none, .some ?_⟩
      rw [h.kind_eq]
      exact .plain _ h.lexeme
  | unexpectedEnd => exact ⟨rfl, .refl hR _ _, .none, .some (.refl hR _ _)⟩
  | unclosed => exact ⟨rfl, .refl hR _ _, .none, .none⟩
  | tooDeep => exact ⟨rfl, .refl hR _ _, .none, .none⟩
  | invalidType operator expected actual s s' hsymbol =>
      refine ⟨rfl, .refl hR _ _, .some ⟨rfl, ?_⟩, .some (.refl hR _ _)⟩
      exact .cons (.nested _ (.cons (.plain hsymbol) .nil)) (.cons (.plain (hR _)) .nil)
  | missingValue => exact ⟨rfl, .refl hR _ _, .none, .none⟩

/-! ### Computations -/

/-- **Two computations agree**: both succeed with related results, or both fail for related
reasons. -/
inductive Agree {ε α β : Type} (F : ε → ε → Prop) (A : α → β → Prop) :
    Except ε α → Except ε β → Prop where
  | ok {a : α} {b : β} (h : A a b) : Agree F A (.ok a) (.ok b)
  | error {e e' : ε} (h : F e e') : Agree F A (.error e) (.error e')

namespace Agree

variable {ε α β α' β' : Type} {F : ε → ε → Prop} {A : α → β → Prop} {A' : α' → β' → Prop}
  {x : Except ε α} {y : Except ε β}

/-- Computations that agree go on with results that are related. -/
lemma bind {k : α → Except ε α'} {l : β → Except ε β'} (h : Agree F A x y)
    (hk : ∀ a b, x = .ok a → A a b → Agree F A' (k a) (l b)) :
    Agree F A' (x.bind k) (y.bind l) := by
  cases h with
  | ok h => exact hk _ _ rfl h
  | error h => exact .error h

/-- Results that are only looked at. -/
lemma map {f : α → α'} {g : β → β'} (h : Agree F A x y) (hf : ∀ a b, A a b → A' (f a) (g b)) :
    Agree F A' (x.map f) (y.map g) := by
  cases h with
  | ok h => exact .ok (hf _ _ h)
  | error h => exact .error h

/-- Reasons that are only looked at. -/
lemma mapError {ε' : Type} {F' : ε' → ε' → Prop} {f : ε → ε'} (h : Agree F A x y)
    (hf : ∀ e e', F e e' → F' (f e) (f e')) : Agree F' A (x.mapError f) (y.mapError f) := by
  cases h with
  | ok h => exact .ok h
  | error h => exact .error (hf _ _ h)

end Agree

end Condition
