/-
Numerals: the texts that stand for numbers.

* `Numeral.read?`: a sign, digits around a point, and a power of ten;
* `Binary64.read?`: the double that a text stands for: a numeral, or the name
  of an infinity or of the NaN;
* `Binary64.ofNumericText?`: the double that a numeric string stands for. Such a
  string is a numeral between blanks, and no name.
-/
import Condition.Number.Decimal

namespace Condition

/-! ### Numerals -/

/-- A decimal numeral, taken apart: its sign, the digits on both sides of the
point, and the power of ten. -/
structure Numeral where
  negative : Bool
  whole : List Char
  fraction : List Char
  exponent : Int
deriving DecidableEq, Repr

namespace Numeral

/-- The number that digits stand for. -/
def digitsValue (digits : List Char) : Nat := Nat.ofDigitChars 10 digits 0

/-- The number without its sign. -/
def decimal (n : Numeral) : Decimal :=
  ⟨digitsValue (n.whole ++ n.fraction), n.exponent - n.fraction.length⟩

/-- Takes a leading sign off: whether it is a minus, and what follows. -/
def splitSign : List Char → Bool × List Char
  | '-' :: cs => (true, cs)
  | '+' :: cs => (false, cs)
  | cs => (false, cs)

/-- Takes the digits after a point off, if there is a point. -/
def splitFraction : List Char → List Char × List Char
  | '.' :: cs => (cs.takeWhile Char.isDigit, cs.dropWhile Char.isDigit)
  | cs => ([], cs)

/-- Reads the end of a numeral: nothing, or `e`, an optional sign and
digits. -/
def readExponent? : List Char → Option Int
  | [] => some 0
  | c :: cs =>
    let (negative, digits) := splitSign cs
    if (c = 'e' ∨ c = 'E') ∧ digits ≠ [] ∧ digits.all Char.isDigit then
      some (if negative then -(digitsValue digits : Int) else digitsValue digits)
    else none

/-- Reads a numeral without its sign. There is a digit on at least one side of
the point. -/
def readUnsigned? (negative : Bool) (cs : List Char) : Option Numeral :=
  let whole := cs.takeWhile Char.isDigit
  let (fraction, tail) := splitFraction (cs.dropWhile Char.isDigit)
  if whole = [] ∧ fraction = [] then none
  else (readExponent? tail).map fun exponent => { negative, whole, fraction, exponent }

/-- Reads a numeral. -/
def read? (cs : List Char) : Option Numeral :=
  let (negative, body) := splitSign cs
  readUnsigned? negative body

end Numeral

/-! ### The doubles they stand for -/

namespace Binary64

/-- The double nearest to a numeral. -/
def ofNumeral (n : Numeral) : Binary64 := ofDecimal n.negative n.decimal

/-- The doubles that have names, in letters of any case. -/
def named? (negative : Bool) (cs : List Char) : Option Binary64 :=
  let name := cs.map Char.toLower
  if name = ['i', 'n', 'f'] ∨ name = ['i', 'n', 'f', 'i', 'n', 'i', 't', 'y'] then
    some (infinite negative)
  else if name = ['n', 'a', 'n'] then some nan
  else none

/-- The double that a text stands for: a numeral, or an optional sign and a
name. -/
def read? (cs : List Char) : Option Binary64 :=
  match Numeral.read? cs with
  | some n => some (ofNumeral n)
  | none =>
    let (negative, body) := Numeral.splitSign cs
    named? negative body

/-! ### Numeric strings -/

/-- The blanks that may stand around a numeric string. -/
def isPadding (c : Char) : Bool :=
  c == ' ' || c == '\t' || c == '\n' || c == '\r' || c == '\x0b' || c == '\x0c'

/-- The text without the blanks around it. -/
def trim (cs : List Char) : List Char :=
  ((cs.dropWhile isPadding).reverse.dropWhile isPadding).reverse

/-- The characters of a numeric string. -/
def isNumericChar (c : Char) : Bool :=
  c.isDigit || c == '.' || c == 'e' || c == 'E' || c == '+' || c == '-'

/-- The double that a numeric string stands for. The names of doubles are not
numeric strings. -/
def ofNumericText? (text : String) : Option Binary64 :=
  let body := trim text.toList
  if body.all isNumericChar && body.any Char.isDigit then read? body else none

end Binary64

end Condition
