/-
The quoted form of a text: double quotes around it, and an escape for every
character that could not be read off the page.

* `escape`: the form of one character;
* `quote`: the form of a text.
-/
import Condition.Text.Hidden

namespace Condition.Text

/-- The escape of a character by its number: `\u`, then the lower-case
hexadecimal number without leading zeros in braces. -/
def numbered (c : Char) : List Char :=
  '\\' :: 'u' :: '\x7b' :: Nat.toDigits 16 c.toNat ++ ['\x7d']

/-- The form of one character inside quotes. Six characters have an escape of
their own, hidden ones are shown by their number, and every other character,
the single quote among them, stands for itself. -/
def escape (c : Char) : List Char :=
  if c = '\x00' then ['\\', '0']
  else if c = '\t' then ['\\', 't']
  else if c = '\r' then ['\\', 'r']
  else if c = '\n' then ['\\', 'n']
  else if c = '"' then ['\\', '"']
  else if c = '\\' then ['\\', '\\']
  else if isHidden c then numbered c
  else [c]

/-- The quoted form of a text. -/
def quote (s : String) : String :=
  String.ofList ('"' :: s.toList.flatMap escape ++ ['"'])

end Condition.Text
