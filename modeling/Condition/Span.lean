/-
Places in a text, in bytes.

* `Span`: the bytes from `start` up to, not including, `stop`;
* `Span.merge`: the least span that covers two spans;
* `Span.text`: the written form, `start..stop`.
-/

namespace Condition

/-- A range of bytes of a text, from `start` up to and not including `stop`.
A span with `stop < start` is empty. -/
structure Span where
  start : Nat
  stop : Nat
deriving DecidableEq, Repr, Inhabited

namespace Span

/-- The span before the first character. -/
def origin : Span := ⟨0, 0⟩

/-- The number of bytes covered. -/
def length (s : Span) : Nat := s.stop - s.start

/-- Whether no byte is covered. -/
def isEmpty (s : Span) : Bool := s.length == 0

/-- The least span that covers both. -/
def merge (s t : Span) : Span := ⟨min s.start t.start, max s.stop t.stop⟩

/-- The written form, `start..stop`. -/
def text (s : Span) : String := s.start.repr ++ ".." ++ s.stop.repr

end Span

end Condition
