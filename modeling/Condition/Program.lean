/-
The language as a whole: from a source text to its value.

* `parse`: the tree of a text;
* `evaluate`: its value;
* `branch`: the one of two texts that its value chooses;
* `checkLength`: the guard against texts that are too long.
-/
import Condition.Expr.Evaluate
import Condition.Expr.Parse
import Condition.Token.Scan

namespace Condition

/-- The tree of a source text. -/
def parse (source : String) : Except Failure Expr := do
  let ts ← tokens source
  (parseTokens source.toList ts).mapError .fault

/-- The tree of a source text is that of its tokens. -/
theorem parse_of_tokens {source : String} {ts : List Token} (h : tokens source = .ok ts) :
    parse source = (parseTokens source.toList ts).mapError .fault := by
  rw [parse, h]
  rfl

/-- The value of a source text; a text without tokens has none. -/
def evaluate (source : String) : Except Failure (Option Value) := do
  let e ← parse source
  e.evaluate

/-- The value of a source text is that of its tree. -/
theorem evaluate_of_parse {source : String} {e : Expr} (h : parse source = .ok e) :
    evaluate source = e.evaluate := by
  rw [evaluate, h]
  rfl

theorem evaluate_of_parse_error {source : String} {failure : Failure}
    (h : parse source = .error failure) : evaluate source = .error failure := by
  rw [evaluate, h]
  rfl

/-- The consequent if the value of the source text counts as true, and the
alternate otherwise, also if there is no value. -/
def branch (source consequent alternate : String) : Except Failure String := do
  let value ← evaluate source
  return if value.any Value.isTruthy then consequent else alternate

/-- Refuses a source text of more than `max` bytes. -/
def checkLength (source : String) (max : Nat) : Except Failure Unit :=
  if max < Text.width source.toList then .error (.fault (.overlong source.toList max))
  else .ok ()

end Condition
