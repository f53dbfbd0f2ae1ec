/-
Byte offsets in a text. A text is a list of characters, each as wide as its
UTF-8 form, and an offset is a character boundary if whole characters fill
the bytes before it.

* `width`: the number of bytes of a text;
* `fitting`, `beyond`: the whole leading characters that fit in a number of
  bytes, and the characters after them; `fitting_append_beyond` puts the text
  together again;
* `floorBoundary`: the last boundary that is not past an offset
  (`floorBoundary_le`);
* `slice`: the characters between two offsets;
* `from?`: the text from an offset on, if a character or the end is there.
-/

namespace Condition.Text

/-- The number of bytes of a text. -/
def width : List Char → Nat
  | [] => 0
  | c :: cs => c.utf8Size + width cs

@[simp] theorem width_nil : width [] = 0 := rfl

@[simp] theorem width_cons (c : Char) (cs : List Char) :
    width (c :: cs) = c.utf8Size + width cs := rfl

@[simp] theorem width_append (cs ds : List Char) :
    width (cs ++ ds) = width cs + width ds := by
  induction cs with
  | nil => simp
  | cons c cs ih => simp [ih, Nat.add_assoc]

/-- The longest run of whole leading characters that takes at most `n` bytes. -/
def fitting : Nat → List Char → List Char
  | _, [] => []
  | n, c :: cs => if c.utf8Size ≤ n then c :: fitting (n - c.utf8Size) cs else []

/-- The characters after the longest leading run of at most `n` bytes. -/
def beyond : Nat → List Char → List Char
  | _, [] => []
  | n, c :: cs => if c.utf8Size ≤ n then beyond (n - c.utf8Size) cs else c :: cs

/-- The two parts make up the text. -/
theorem fitting_append_beyond (n : Nat) (cs : List Char) :
    fitting n cs ++ beyond n cs = cs := by
  induction cs generalizing n with
  | nil => rfl
  | cons c cs ih =>
    by_cases h : c.utf8Size ≤ n <;> simp [fitting, beyond, h, ih]

/-- The last character boundary that is not past `index`, or the end of the
text if `index` lies after it. -/
def floorBoundary (cs : List Char) (index : Nat) : Nat := width (fitting index cs)

theorem floorBoundary_le (cs : List Char) (index : Nat) : floorBoundary cs index ≤ index := by
  unfold floorBoundary
  induction cs generalizing index with
  | nil => simp [fitting]
  | cons c cs ih =>
    by_cases h : c.utf8Size ≤ index
    · have := ih (index - c.utf8Size)
      simp only [fitting, h, if_true, width_cons]
      omega
    · simp [fitting, h]

/-- The characters from the offset `start` up to the offset `stop`, both of
them boundaries. -/
def slice (cs : List Char) (start stop : Nat) : List Char :=
  fitting (stop - start) (beyond start cs)

/-- The text from the byte `offset` on, unless that is past the end or inside
of a character. -/
def from? : List Char → Nat → Option (List Char)
  | cs, 0 => some cs
  | [], _ + 1 => none
  | c :: cs, n + 1 => if c.utf8Size ≤ n + 1 then from? cs (n + 1 - c.utf8Size) else none

end Condition.Text
