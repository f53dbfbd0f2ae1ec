/-
Excerpts: the line of source text around a place, with the place marked on a
second line.

* `Text.isWhiteSpace`: the characters that Unicode calls white space;
* `Excerpt.around`: which part of the text is shown and which part of it is
  marked;
* `Excerpt.shown`, `Excerpt.marks`: the two lines;
* `excerpt`: both of them, for any start and length.
-/
import Condition.Span
import Condition.Text.Offset

namespace Condition

/-- Whether the character is white space (has Unicode's property `White_Space`). -/
def Text.isWhiteSpace (c : Char) : Bool :=
  let n := c.toNat
  (0x09 ≤ n && n ≤ 0x0D) || n == 0x20 || n == 0x85 || n == 0xA0 || n == 0x1680
    || (0x2000 ≤ n && n ≤ 0x200A) || n == 0x2028 || n == 0x2029 || n == 0x202F
    || n == 0x205F || n == 0x3000

/-- An excerpt of a text: the bytes shown and the bytes marked. -/
structure Excerpt where
  window : Span
  marked : Span
deriving DecidableEq, Repr

namespace Excerpt

open Text

/-- The number of bytes that an excerpt shows. -/
def breadth : Nat := 60

/-- What stands where text was cut off. -/
def ellipsis : List Char := ['.', '.', '.']

/-- The excerpt around the `length` bytes from `start` on. It opens half its
breadth before `start`, and the marked part ends with the window. All four
places are moved back to character boundaries, so every `start` and `length`
will do. -/
def around (source : List Char) (start length : Nat) : Excerpt :=
  let start := floorBoundary source start
  let first := floorBoundary source (start - breadth / 2)
  let last := max (floorBoundary source (first + breadth)) start
  { window := ⟨first, last⟩
    marked := ⟨start, floorBoundary source (min (start + length) last)⟩ }

/-- The ellipsis on the left, if text was cut off there. -/
def lead (e : Excerpt) : List Char := if 0 < e.window.start then ellipsis else []

/-- The ellipsis on the right, if text was cut off there. -/
def trail (source : List Char) (e : Excerpt) : List Char :=
  if e.window.stop < width source then ellipsis else []

/-- White space of any kind is shown as a space, so that the marks stay
aligned. -/
def plain (c : Char) : Char := if isWhiteSpace c then ' ' else c

/-- The first line: the window, between ellipses where text was cut off. -/
def shown (source : List Char) (e : Excerpt) : List Char :=
  e.lead ++ (slice source e.window.start e.window.stop).map plain ++ e.trail source

/-- The second line: one caret under each character of the marked part. -/
def marks (source : List Char) (e : Excerpt) : List Char :=
  List.replicate (e.lead.length + (slice source e.window.start e.marked.start).length) ' '
    ++ List.replicate (slice source e.marked.start e.marked.stop).length '^'

end Excerpt

/-- The two lines of the excerpt around the `length` bytes of `source` from
`start` on. -/
def excerpt (source : String) (start length : Nat) : String :=
  let chars := source.toList
  let e := Excerpt.around chars start length
  String.ofList (e.shown chars ++ '\n' :: e.marks chars)

end Condition
