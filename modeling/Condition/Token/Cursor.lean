/-
A place in a list of tokens.

* `Cursor`: the tokens before the place and after it, and how many parentheses
  and prefix operators are open there;
* `Cursor.advance`, `Cursor.opened`, `Cursor.leave`: the steps of a parser;
* `Cursor.missing`: the fault of a list that ends at the place.
-/
import Condition.Fault

namespace Condition

/-- A place in a list of tokens. -/
structure Cursor where
  /-- The tokens before the place, the nearest one first. -/
  passed : List Token
  /-- The tokens after the place. -/
  rest : List Token
  /-- The number of parentheses and prefix operators whose operands are not
  complete. -/
  nesting : Nat
deriving DecidableEq, Repr

namespace Cursor

/-- The start of a list of tokens. -/
def start (tokens : List Token) : Cursor := ⟨[], tokens, 0⟩

/-- The place after the next token. -/
def advance (c : Cursor) : Cursor :=
  match c.rest with
  | [] => c
  | token :: rest => { c with passed := token :: c.passed, rest }

theorem advance_lt {c : Cursor} {token : Token} {rest : List Token} (h : c.rest = token :: rest) :
    c.advance.rest.length < c.rest.length := by
  simp [advance, h]

/-- The place with one more level of nesting. -/
def opened (c : Cursor) : Cursor := { c with nesting := c.nesting + 1 }

/-- The place with the innermost level of nesting closed. -/
def leave (c : Cursor) : Cursor := { c with nesting := c.nesting - 1 }

@[simp] theorem rest_opened (c : Cursor) : c.opened.rest = c.rest := rfl

@[simp] theorem rest_leave (c : Cursor) : c.leave.rest = c.rest := rfl

/-- The fault of tokens that end at the place although more is needed: the last
token has nothing after it. -/
def missing (source : List Char) (c : Cursor) : Fault :=
  match c.passed with
  | last :: _ => .unexpected last .backward
  | [] => .unexpectedEnd (Text.width source)

end Cursor

end Condition
