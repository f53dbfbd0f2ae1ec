/-
Cutting a source text into tokens.

* `scan`: the tokens from an offset on, or the offset of the first character
  that starts none;
* `tokens`: the tokens of a source text, or the fault at that character.
-/
import Condition.Fault
import Condition.Token.Rule

namespace Condition

/-- The characters that may stand between tokens: space, tab, carriage return,
line feed, vertical tab and NUL. -/
def isSkipped (c : Char) : Bool :=
  c == ' ' || c == '\t' || c == '\r' || c == '\n' || c == '\x0b' || c == '\x00'

/-- Cuts the text that starts at `offset` into tokens, taking the longest match
each time. The failure is the offset of a character where no rule matches. -/
def scan (offset : Nat) : List Char → Except Nat (List Token)
  | [] => .ok []
  | c :: cs =>
    if isSkipped c then scan (offset + c.utf8Size) cs
    else
      match longest? (c :: cs) with
      | none => .error offset
      | some m => do
        let lexeme := (c :: cs).take m.length
        let rest ← scan (offset + Text.width lexeme) ((c :: cs).drop m.length)
        return ⟨String.ofList lexeme, m.kind, offset⟩ :: rest
termination_by cs => cs.length
decreasing_by
  · simp
  · have := m.length_pos
    simp only [List.length_drop, List.length_cons]
    omega

/-- The tokens of a source text. -/
def tokens (source : String) : Except Failure (List Token) :=
  match scan 0 source.toList with
  | .ok ts => .ok ts
  | .error offset => do
    let fault ← Fault.unidentifiedAt source.toList offset
    .error (.fault fault)

end Condition
