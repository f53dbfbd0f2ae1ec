/-
Why a text has no value, and what is reported about it.

* `Fault`: the causes, from a character that starts no token to an operand of
  the wrong type;
* `Fault.diagnostic`: the report of a cause, with its message keys, its
  parameters and its place;
* `Failure`: a fault of the text, or a breach of what the evaluator and the
  scanner are promised, which no text brings about.
-/
import Condition.Diagnostic
import Condition.Token
import Condition.Value

namespace Condition

/-- Which way an unexpected token was looked at: from before it, because
something is missing there, or from behind it, because the tokens end after
it. -/
inductive Side where
  | forward
  | backward
deriving DecidableEq, Repr

/-- Why a text has no value. -/
inductive Fault where
  /-- No token starts with the character at the offset; there is none at the end
  of the text. -/
  | unidentified (character : Option Char) (offset : Nat)
  /-- The token cannot stand where it stands, or nothing follows it. -/
  | unexpected (token : Token) (side : Side)
  /-- The text ends, at the offset, before anything was read. -/
  | unexpectedEnd (offset : Nat)
  /-- The parenthesis at the offset is not closed. -/
  | unclosed (offset : Nat)
  /-- The text has more bytes than allowed; its whole characters fit as far as
  `kept`. -/
  | tooLong (length max kept : Nat)
  /-- The token nests the expression deeper than the limit. -/
  | tooDeep (token : Token) (limit : Nat)
  /-- The operator, spelled `symbol`, was given a value of the wrong type. -/
  | invalidType (operator : Operator) (symbol : String) (expected actual : ValueType)
      (span : Span)
  /-- An operand has no value. -/
  | missingValue (span : Span)
deriving DecidableEq, Repr

namespace Fault

/-- The text is longer than `max` bytes. -/
def overlong (source : List Char) (max : Nat) : Fault :=
  tooLong (Text.width source) max (Text.floorBoundary source max)

/-- The key of the hint about an unexpected token: what to put where. -/
def hintKey (kind : TokenKind) (side : Side) : String :=
  if kind = .rightParen then "expressions-hint-expected-value"
  else
    match side with
    | .backward => "expressions-hint-expected-value-after"
    | .forward =>
      if kind.beginsValue then "expressions-hint-expected-operator"
      else "expressions-hint-expected-value-before"

/-- A message whose parameters are all plain texts. -/
def plainMessage (key : String) (texts : List String) : Message := .mk key (texts.map .plain)

/-- The report of a fault. -/
def diagnostic : Fault → Diagnostic
  | unidentified character offset =>
    let shown := character.toList
    { kind := .lex
      message := plainMessage "expressions-unidentified-token" [String.ofList shown]
      span := ⟨offset, offset + Text.width shown⟩ }
  | unexpected token side =>
    { kind := .parse
      message := plainMessage "expressions-unexpected-token" [token.lexeme]
      span := token.span
      hint := some (plainMessage (hintKey token.kind side) [token.lexeme]) }
  | unexpectedEnd offset =>
    { kind := .parse
      message := plainMessage "expressions-unexpected-token" [""]
      span := ⟨offset, offset⟩
      hint := some (plainMessage "expressions-hint-expected-value" []) }
  | unclosed offset =>
    { kind := .parse
      message := plainMessage "expressions-unclosed-paren" []
      span := ⟨offset, offset + 1⟩ }
  | tooLong length max kept =>
    { kind := .limit
      message := plainMessage "expressions-too-long" [length.repr, max.repr]
      span := ⟨kept, length⟩ }
  | tooDeep token limit =>
    { kind := .limit
      message := plainMessage "expressions-too-deep" [limit.repr]
      span := token.span }
  | invalidType operator symbol expected actual span =>
    { kind := .type
      message := plainMessage "expressions-invalid-type" [actual.name, expected.name]
      span := span
      submessage := some (.mk "expressions-invalid-type-operand"
        [.nested (plainMessage operator.key [symbol]), .plain actual.name])
      hint := some (plainMessage "expressions-hint-expected-type" [expected.name]) }
  | missingValue span =>
    { kind := .missingValue
      message := plainMessage "expressions-missing-value" []
      span := span }

end Fault

/-! ### Failures -/

/-- Why a computation stopped. -/
inductive Failure where
  /-- Something is wrong with the text. -/
  | fault (fault : Fault)
  /-- The operator was given to the evaluation of a family that it is not of. -/
  | misapplied (op : BinaryOperator)
  /-- The text was to be read from an offset where no character starts. -/
  | offBoundary (offset : Nat)
deriving DecidableEq, Repr

/-- The report that the text at `offset` starts no token. -/
def Fault.unidentifiedAt (source : List Char) (offset : Nat) : Except Failure Fault :=
  match Text.from? source offset with
  | some cs => .ok (.unidentified cs.head? offset)
  | none => .error (.offBoundary offset)

end Condition
