/-
Diagnostics: what is reported about a text that has no value. A diagnostic
carries message keys and parameters, no prose.

* `Message`, `Param`: a key with parameters, which are texts or smaller messages;
* `Diagnostic`: a message with its kind and its place, and perhaps a submessage
  and a hint;
* `Message.text`, `Diagnostic.text`: the written forms, `key(param, param)` and
  `kind at span: message`.
-/
import Condition.Span
import Condition.Text.Quoted

namespace Condition

/-! ### Messages -/

mutual

/-- A message key with its parameters in order. -/
inductive Message where
  | mk (key : String) (params : List Param)

/-- A parameter of a message: a text, or a smaller message. -/
inductive Param where
  | plain (text : String)
  | nested (message : Message)

end

namespace Message

/-- The key of a message. -/
def key : Message → String
  | mk key _ => key

/-- The parameters of a message. -/
def params : Message → List Param
  | mk _ params => params

/-- The message with one more parameter at the end. -/
def withParam (m : Message) (param : Param) : Message := mk m.key (m.params ++ [param])

end Message

mutual

/-- The written form of a message: its key, and its parameters in parentheses if
there are any. -/
def Message.text : Message → String
  | .mk key [] => key
  | .mk key (param :: params) => key ++ "(" ++ param.text ++ furtherParams params ++ ")"

/-- The written form of a parameter: a text is quoted. -/
def Param.text : Param → String
  | .plain s => Text.quote s
  | .nested m => m.text

/-- The written form of the parameters after the first. -/
def furtherParams : List Param → String
  | [] => ""
  | param :: params => ", " ++ param.text ++ furtherParams params

end

/-! ### Diagnostics -/

namespace Diagnostic

/-- What kind of failure is reported. -/
inductive Kind where
  /-- A character starts no token. -/
  | lex
  /-- The tokens are no expression. -/
  | parse
  /-- An operator was given an operand of the wrong type. -/
  | type
  /-- An operator was given an operand without a value. -/
  | missingValue
  /-- The text is too long or nested too deeply. -/
  | limit
deriving DecidableEq, Repr

/-- The name of a kind of failure. -/
def Kind.text : Kind → String
  | lex => "lex error"
  | parse => "parse error"
  | type => "type error"
  | missingValue => "missing value"
  | limit => "limit exceeded"

end Diagnostic

/-- What is reported about a text. -/
structure Diagnostic where
  kind : Diagnostic.Kind
  message : Message
  span : Span
  submessage : Option Message := none
  hint : Option Message := none

namespace Diagnostic

/-- The diagnostic with the submessage `m`. -/
def withSubmessage (d : Diagnostic) (m : Message) : Diagnostic := { d with submessage := some m }

/-- The diagnostic with the hint `m`. -/
def withHint (d : Diagnostic) (m : Message) : Diagnostic := { d with hint := some m }

/-- The diagnostic with one more parameter in its message. -/
def withParam (d : Diagnostic) (param : Param) : Diagnostic :=
  { d with message := d.message.withParam param }

/-- The written form of a diagnostic: its kind, its place and its message. -/
def text (d : Diagnostic) : String :=
  d.kind.text ++ " at " ++ d.span.text ++ ": " ++ d.message.text

end Diagnostic

end Condition
