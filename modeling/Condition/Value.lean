/-
Values and their types.

* `Value`: a boolean, a number or a string;
* `ValueType`, `Value.type`: the types and their names;
* `Value.isTruthy`: what a value counts for where a condition is asked for;
* `Value.text`: the written form.
-/
import Condition.Number.Shortest

namespace Condition

/-- A value of the language. The characters of a string are kept as they were
written, escapes included. -/
inductive Value where
  | boolean (b : Bool)
  | number (n : Binary64)
  | string (s : String)
deriving DecidableEq

/-- The type of a value. -/
inductive ValueType where
  | boolean
  | number
  | string
deriving DecidableEq, Repr

/-- The name of a type in diagnostics. -/
def ValueType.name : ValueType → String
  | boolean => "boolean"
  | number => "number"
  | string => "string"

namespace Value

/-- The type of a value. -/
def type : Value → ValueType
  | boolean _ => .boolean
  | number _ => .number
  | string _ => .string

/-- What a value counts for as a condition. All numbers but the zeros count as
true, and all strings but the empty one and `0`. -/
def isTruthy : Value → Bool
  | boolean b => b
  | number n => !n.equals .zero
  | string s => !(s == "" || s == "0")

/-- The payload of a boolean. -/
def boolean? : Value → Option Bool
  | boolean b => some b
  | _ => none

/-- The payload of a number. -/
def number? : Value → Option Binary64
  | number n => some n
  | _ => none

/-- The written form: strings stand without quotes. -/
def text : Value → String
  | boolean b => if b then "true" else "false"
  | number n => n.text
  | string s => s

end Value

end Condition
