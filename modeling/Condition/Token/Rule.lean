/-
The lexical rules: which texts are tokens, and of which kind.

* `Pattern`: a fixed spelling, a number or a quoted string;
* `Pattern.reach`: how much of the front of a text a pattern matches at most;
* `rules`: the rules of the language in the order of their declaration;
* `longest?`: the longest match of all rules.

No spelling ends at the border of a word: `trueand` is two tokens.
-/
import Condition.Token

namespace Condition

/-- The shape of a token's text. -/
inductive Pattern where
  /-- One fixed text. -/
  | spelling (text : List Char)
  /-- Digits, and perhaps a point with digits after it. -/
  | number
  /-- A text in double quotes, in which a backslash takes the next character
  along. -/
  | quoted
deriving DecidableEq, Repr

namespace Pattern

/-- The number of characters up to the closing quote and with it. A backslash
takes the next character along, which is not a line feed. -/
def closing? : List Char → Option Nat
  | [] => none
  | c :: cs =>
    if c = '"' then some 1
    else if c = '\\' then
      match cs with
      | [] => none
      | d :: ds => if d = '\n' then none else (closing? ds).map (· + 2)
    else (closing? cs).map (· + 1)

/-- The number of characters of the longest number in front: a point counts only
with a digit after it. -/
def numberReach (cs : List Char) : Nat :=
  let whole := (cs.takeWhile Char.isDigit).length
  if whole = 0 then 0
  else
    match cs.dropWhile Char.isDigit with
    | '.' :: rest =>
      let fraction := (rest.takeWhile Char.isDigit).length
      if fraction = 0 then whole else whole + 1 + fraction
    | _ => whole

/-- The number of characters of the longest text in front that has the shape. No
pattern matches the empty text, so zero says that there is none. -/
def reach : Pattern → List Char → Nat
  | spelling text, cs => if text.isPrefixOf cs then text.length else 0
  | number, cs => numberReach cs
  | quoted, '"' :: cs => ((closing? cs).map (· + 1)).getD 0
  | quoted, _ => 0

end Pattern

/-- A lexical rule: texts of this shape are tokens of this kind. -/
structure Rule where
  kind : TokenKind
  pattern : Pattern
deriving DecidableEq, Repr

/-- The rule for one spelling of a kind. -/
def Rule.spelled (kind : TokenKind) (text : String) : Rule := ⟨kind, .spelling text.toList⟩

/-- The rules of the language. -/
def rules : List Rule :=
  [⟨.stringLiteral, .quoted⟩,
    ⟨.numberLiteral, .number⟩,
    .spelled .falseLiteral "false",
    .spelled .trueLiteral "true",
    .spelled .conjunction "&&",
    .spelled .conjunction "/\\",
    .spelled .conjunction "and",
    .spelled .disjunction "\\/",
    .spelled .disjunction "or",
    .spelled .equality "===",
    .spelled .equality "<->",
    .spelled .equality "<=>",
    .spelled .notEquality "!==",
    .spelled .notEquality "!<->",
    .spelled .notEquality "!<=>",
    .spelled .notEquality "<>",
    .spelled .equals "==",
    .spelled .notEquals "!=",
    .spelled .implication "=>",
    .spelled .implication "->",
    .spelled .xor "xor",
    .spelled .greaterEqual ">=",
    .spelled .lessEqual "<=",
    .spelled .greater ">",
    .spelled .less "<",
    .spelled .not "~",
    .spelled .not "!",
    .spelled .minus "-",
    .spelled .leftParen "(",
    .spelled .rightParen ")"]

/-- A match of a rule in front of a text: its kind and its number of
characters. -/
structure Munch where
  kind : TokenKind
  length : Nat
  length_pos : 0 < length

/-- The longer one of a match and what a rule matches; the match, if both are
equally long. -/
def Munch.extend (cs : List Char) (best : Option Munch) (rule : Rule) : Option Munch :=
  let length := rule.pattern.reach cs
  match best with
  | none => if h : 0 < length then some ⟨rule.kind, length, h⟩ else none
  | some m =>
    if h : m.length < length then some ⟨rule.kind, length, by have := m.length_pos; omega⟩
    else some m

/-- The longest match of all rules in front of a text. -/
def longest? (cs : List Char) : Option Munch := rules.foldl (Munch.extend cs) none

end Condition
