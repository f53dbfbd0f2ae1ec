/-
The same expression at another place of a text.

* `Span.moved`, `Token.moved`, `Expr.moved`: a span, a token and a tree some bytes
  further on;
* `Derives.moved`, `Derives.of_moved`: tokens are an expression here if and only if they
  are one further on, and only the places of its tree differ.
-/
import Condition.Proofs.Grammar

namespace Condition

/-- The span `k` bytes further on. -/
def Span.moved (k : Nat) (s : Span) : Span := ⟨s.start + k, s.stop + k⟩

/-- The token `k` bytes further on. -/
def Token.moved (k : Nat) (t : Token) : Token := { t with offset := t.offset + k }

/-- The tree `k` bytes further on, with everything but the spans as it is. -/
def Expr.moved (k : Nat) : Expr → Expr
  | empty span => empty (span.moved k)
  | literal value span => literal value (span.moved k)
  | unary op symbol operand span depth =>
    unary op symbol (operand.moved k) (span.moved k) depth
  | binary op symbol left right span depth =>
    binary op symbol (left.moved k) (right.moved k) (span.moved k) depth

variable (k : Nat)

/-! ### Tokens -/

lemma Span.moved_injective : Function.Injective (Span.moved k) := by
  intro s t h
  simp only [moved, Span.mk.injEq, Nat.add_right_cancel_iff] at h
  cases s
  cases t
  simp_all

lemma Token.moved_injective : Function.Injective (Token.moved k) := by
  intro t u h
  simp only [moved, Token.mk.injEq, Nat.add_right_cancel_iff] at h
  cases t
  cases u
  simp_all

@[simp] lemma Token.kind_moved (t : Token) : (t.moved k).kind = t.kind := rfl

@[simp] lemma Token.lexeme_moved (t : Token) : (t.moved k).lexeme = t.lexeme := rfl

@[simp] lemma Token.offset_moved (t : Token) : (t.moved k).offset = t.offset + k := rfl

@[simp] lemma Token.value?_moved (t : Token) : (t.moved k).value? = t.value? := rfl

@[simp] lemma Token.span_moved (t : Token) : (t.moved k).span = t.span.moved k := by
  rw [Token.span, Token.span, Span.moved, Token.offset_moved, Token.lexeme_moved,
    Nat.add_right_comm]

/-! ### Trees -/

@[simp] lemma Expr.span_moved (e : Expr) : (e.moved k).span = e.span.moved k := by
  cases e <;> rfl

@[simp] lemma Expr.depth_moved (e : Expr) : (e.moved k).depth = e.depth := by
  cases e <;> rfl

@[simp] lemma Expr.isEmpty_moved (e : Expr) : (e.moved k).isEmpty = e.isEmpty := by
  cases e <;> rfl

lemma Expr.moved_withSpan (e : Expr) (s : Span) :
    (e.withSpan s).moved k = (e.moved k).withSpan (s.moved k) := by
  cases e <;> rfl

lemma Expr.moved_prefixed (op : UnaryOperator) (symbol : String) (e : Expr) (s : Span) :
    (Expr.prefixed op symbol e s).moved k =
      Expr.prefixed op symbol (e.moved k) (s.moved k) := by
  rw [Expr.prefixed, Expr.prefixed, Expr.moved, Expr.depth_moved]

lemma Expr.moved_joined (op : BinaryOperator) (symbol : String) (l r : Expr) (s : Span) :
    (Expr.joined op symbol l r s).moved k =
      Expr.joined op symbol (l.moved k) (r.moved k) (s.moved k) := by
  rw [Expr.joined, Expr.joined, Expr.moved, Expr.depth_moved, Expr.depth_moved]

/-! ### Phrases -/

variable {k}

/-- A phrase is one further on. -/
theorem Derives.moved {p : Phrase} {ts : List Token} {opens : List Nat} {e : Expr}
    (h : Derives p ts opens e) (k : Nat) :
    Derives p (ts.map (Token.moved k)) opens (e.moved k) := by
  induction h with
  | @literal t v hv =>
      rw [Expr.moved, ← Token.span_moved]
      exact .literal (t := t.moved k) hv
  | @group opening closing ts opens e ho _ hc ih =>
      have ho' : (opening.moved k).kind = .leftParen := ho
      have hc' : (closing.moved k).kind = .rightParen := hc
      have hgroup := Derives.group ho' ih hc'
      rw [Expr.moved_withSpan]
      simpa [Span.moved] using hgroup
  | primary _ ih => exact .primary ih
  | @prefixed t op ts opens e ht _ ih =>
      have hprefixed := Derives.prefixed (t := t.moved k) ht ih
      rw [Expr.moved_prefixed]
      simpa [Span.moved] using hprefixed
  | operand _ ih => exact .operand ih
  | @joined level t op ts us opens opens' l r _ ht hop _ ihl ihr =>
      have hjoined := Derives.joined (t := t.moved k) ihl ht hop ihr
      rw [Expr.moved_joined]
      simpa [Span.moved] using hjoined

/-- **The grammar knows no places**: a phrase further on is a phrase here, with the same
tree but for its spans. -/
theorem Derives.of_moved {p : Phrase} {ws ts : List Token} {opens : List Nat} {n : Expr}
    (h : Derives p ws opens n) (hws : ws = ts.map (Token.moved k)) :
    ∃ e, Derives p ts opens e ∧ n = e.moved k := by
  induction h generalizing ts with
  | @literal t v hv =>
      obtain ⟨t, rfl, rfl⟩ := List.map_eq_singleton_iff.mp hws.symm
      rw [Token.value?_moved] at hv
      exact ⟨_, .literal hv, by rw [Token.span_moved]; rfl⟩
  | group ho _ hc ih =>
      obtain ⟨o, us, rfl, rfl, hus⟩ := List.map_eq_cons_iff.mp hws.symm
      obtain ⟨ts, cs, rfl, hts, hcs⟩ := List.map_eq_append_iff.mp hus
      obtain ⟨c, rfl, rfl⟩ := List.map_eq_singleton_iff.mp hcs
      obtain ⟨e, he, rfl⟩ := ih hts.symm
      refine ⟨_, .group ho he hc, ?_⟩
      rw [Expr.moved_withSpan, Token.span_moved]
      rfl
  | primary _ ih =>
      obtain ⟨e, he, rfl⟩ := ih hws
      exact ⟨e, .primary he, rfl⟩
  | prefixed ht _ ih =>
      obtain ⟨t, ts, rfl, rfl, hts⟩ := List.map_eq_cons_iff.mp hws.symm
      obtain ⟨e, he, rfl⟩ := ih hts.symm
      refine ⟨_, .prefixed ht he, ?_⟩
      rw [Expr.moved_prefixed, Expr.span_moved]
      rfl
  | operand _ ih =>
      obtain ⟨e, he, rfl⟩ := ih hws
      exact ⟨e, .operand he, rfl⟩
  | joined _ ht hop _ ihl ihr =>
      obtain ⟨ts, vs, rfl, hts, hvs⟩ := List.map_eq_append_iff.mp hws.symm
      obtain ⟨t, us, rfl, rfl, hus⟩ := List.map_eq_cons_iff.mp hvs
      obtain ⟨l, hl, rfl⟩ := ihl hts.symm
      obtain ⟨r, hr, rfl⟩ := ihr hus.symm
      refine ⟨_, .joined hl ht hop hr, ?_⟩
      rw [Expr.moved_joined, Expr.span_moved, Expr.span_moved]
      rfl

end Condition
