/-
The same fault at another place of a text.

* `Fault.moved`, `Failure.moved`, `Diagnostic.moved`: a fault, a failure and a report some
  bytes further on;
* `Fault.diagnostic_moved`: the report of a fault further on is its report here, with
  another span;
* `Failure.moved_injective`: a failure further on is that of one failure here.
-/
import Condition.Fault
import Condition.Proofs.Grammar.Moved

namespace Condition

/-- The fault `k` bytes further on. That a text is too long is a fault of the whole text, which
has no other place. -/
def Fault.moved (k : Nat) : Fault → Fault
  | unidentified character offset => unidentified character (offset + k)
  | unexpected token side => unexpected (token.moved k) side
  | unexpectedEnd offset => unexpectedEnd (offset + k)
  | unclosed offset => unclosed (offset + k)
  | tooLong length max kept => tooLong length max kept
  | tooDeep token limit => tooDeep (token.moved k) limit
  | invalidType operator symbol expected actual span =>
    invalidType operator symbol expected actual (span.moved k)
  | missingValue span => missingValue (span.moved k)

/-- The failure `k` bytes further on. -/
def Failure.moved (k : Nat) : Failure → Failure
  | fault f => fault (f.moved k)
  | misapplied op => misapplied op
  | offBoundary offset => offBoundary (offset + k)

/-- The report `k` bytes further on: only its span differs. -/
def Diagnostic.moved (k : Nat) (d : Diagnostic) : Diagnostic := { d with span := d.span.moved k }

/-- **The report of a fault further on** says the same of another span. -/
lemma Fault.diagnostic_moved (k : Nat) {f : Fault}
    (hf : ∀ length max kept, f ≠ .tooLong length max kept) :
    (f.moved k).diagnostic = f.diagnostic.moved k := by
  cases f with
  | tooLong length max kept => exact absurd rfl (hf length max kept)
  | unexpected token side =>
      simp only [moved, diagnostic, Diagnostic.moved, Token.span_moved, Token.kind_moved,
        Token.lexeme_moved]
  | tooDeep token limit => simp only [moved, diagnostic, Diagnostic.moved, Token.span_moved]
  | unidentified | unclosed =>
      simp only [moved, diagnostic, Diagnostic.moved, Span.moved, Nat.add_right_comm]
  | unexpectedEnd | invalidType | missingValue => rfl

/-- No two failures are the same further on. -/
lemma Failure.moved_injective (k : Nat) : Function.Injective (Failure.moved k) := by
  have hspan := fun s t => (Span.moved_injective k).eq_iff (a := s) (b := t)
  have htoken := fun t u => (Token.moved_injective k).eq_iff (a := t) (b := u)
  intro x y h
  cases x with
  | fault f =>
      cases y with
      | fault g => cases f <;> cases g <;> simp_all [moved, Fault.moved]
      | misapplied | offBoundary => contradiction
  | misapplied op => cases y <;> simp_all [moved]
  | offBoundary offset => cases y <;> simp_all [moved]

end Condition
