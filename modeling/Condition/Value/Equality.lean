/-
The two equalities of values.

* `Value.strictlyEqual`: the same type and the same payload;
* `Value.looselyEqual`: equality after a conversion that depends on both types.
-/
import Condition.Value
import Condition.Number.Numeral

namespace Condition.Value

/-- Strict equality: the values have one type and equal payloads. Numbers are
compared as numbers, so a NaN equals nothing. -/
def strictlyEqual : Value → Value → Bool
  | boolean a, boolean b => a == b
  | number a, number b => a.equals b
  | string a, string b => a == b
  | _, _ => false

/-- A number and a string are loosely equal if the string is numeric and stands
for the number, or is not numeric and is the text of the number. -/
def numberEqualsString (n : Binary64) (s : String) : Bool :=
  match Binary64.ofNumericText? s with
  | some m => m.equals n
  | none => n.text == s

/-- Two strings are loosely equal if both are numeric and stand for equal
numbers, or if one is not numeric and they are the same. -/
def stringsLooselyEqual (s t : String) : Bool :=
  match Binary64.ofNumericText? s, Binary64.ofNumericText? t with
  | some m, some n => m.equals n
  | _, _ => s == t

/-- Loose equality. Beside a boolean the other value counts for what it counts
for as a condition; a number and a string, and two strings, are compared as
numbers where the strings are numeric. -/
def looselyEqual : Value → Value → Bool
  | boolean a, v => a == v.isTruthy
  | v, boolean b => b == v.isTruthy
  | number a, number b => a.equals b
  | number n, string s => numberEqualsString n s
  | string s, number n => numberEqualsString n s
  | string s, string t => stringsLooselyEqual s t

end Condition.Value
