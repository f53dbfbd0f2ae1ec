/-
The last character boundary, found on the bytes of the text.

* `Text.beginsAt`: what a byte tells about the place where it stands; `beginsAt_bytes`: so the
  bytes of a text tell its boundaries;
* `Text.descend`: the way down from an index to a boundary, which may not go below zero;
  `descend_eq_some` takes it to the last boundary;
* `floorBoundary_exact`: on every text and from every index the way down ends, at most three
  bytes lower, at the last boundary, and what is reported about a text that is too long begins
  behind the longest run of characters that is allowed.
-/
import Condition.Program
import Condition.Proofs.Text.Bytes
import Condition.Proofs.Text.Floor

namespace Condition

namespace Text

variable {cs : List Char} {i k : Nat}

/-! ### Boundaries in bytes -/

/-- Whether a character begins at the index of the bytes, or the bytes end there. The first
place needs no rule of its own, as no text begins inside of a character. -/
def beginsAt (bs : List UInt8) (i : Nat) : Bool :=
  match bs[i]? with
  | some b => !isContinuation b
  | none => i == bs.length

/-- What begins behind a part does not hang on that part. -/
lemma beginsAt_append (front bs : List UInt8) (i : Nat) :
    beginsAt (front ++ bs) (front.length + i) = beginsAt bs i := by
  rw [beginsAt, beginsAt, List.getElem?_append_right (Nat.le_add_right _ _),
    Nat.add_sub_cancel_left, List.length_append]
  cases bs[i]? with
  | some b => rfl
  | none => rw [Bool.eq_iff_iff, beq_iff_eq, beq_iff_eq, Nat.add_left_cancel_iff]

/-- In the bytes of a character, a character begins at the first one only. -/
lemma beginsAt_char {c : Char} (bs : List UInt8) (hi : i < c.utf8Size) :
    beginsAt (String.utf8EncodeChar c ++ bs) i = (i == 0) := by
  obtain ⟨b, rest, hchar, hfirst, hrest⟩ := utf8EncodeChar_eq_cons c
  rw [← String.length_utf8EncodeChar] at hi
  rw [beginsAt, List.getElem?_append_left hi, List.getElem?_eq_getElem hi]
  simp only [hchar] at hi ⊢
  cases i with
  | zero => exact congrArg not hfirst
  | succ i => exact congrArg not (hrest _ (List.getElem_mem _))

/-- **The bytes of a text tell its boundaries.** -/
lemma beginsAt_bytes : beginsAt (bytes cs) i = true ↔ IsBoundary cs i := by
  induction cs generalizing i with
  | nil =>
      rw [isBoundary_nil]
      exact beq_iff_eq
  | cons c cs ih =>
      have hpos := c.utf8Size_pos
      rw [isBoundary_cons, bytes_cons]
      rcases Nat.lt_or_ge i c.utf8Size with hinside | hbehind
      · rw [beginsAt_char _ hinside, beq_iff_eq]
        refine ⟨.inl, ?_⟩
        rintro (hzero | ⟨j, -, rfl⟩)
        · exact hzero
        · omega
      · obtain ⟨j, rfl⟩ := Nat.exists_eq_add_of_le hbehind
        have hrest := beginsAt_append (String.utf8EncodeChar c) (bytes cs) j
        rw [String.length_utf8EncodeChar] at hrest
        rw [hrest, ih]
        refine ⟨fun hj => .inr ⟨j, hj, rfl⟩, ?_⟩
        rintro (hzero | ⟨k, hk, hjk⟩)
        · omega
        · rwa [Nat.add_left_cancel hjk]

/-! ### The way down -/

/-- The way from an index down to a boundary, byte by byte. It fails where it would count down
from zero. -/
def descend (bs : List UInt8) : Nat → Option Nat
  | 0 => if beginsAt bs 0 then some 0 else none
  | i + 1 => if beginsAt bs (i + 1) then some (i + 1) else descend bs i

/-- **The way down ends** at the greatest place where a character begins. -/
lemma descend_eq_some {bs : List UInt8}
    (h : IsGreatest {j | beginsAt bs j = true ∧ j ≤ i} k) : descend bs i = some k := by
  induction i with
  | zero =>
      obtain rfl := Nat.le_zero.mp h.1.2
      exact if_pos h.1.1
  | succ i ih =>
      rw [descend]
      split
      · next hbegins => rw [Nat.le_antisymm h.1.2 (h.2 ⟨hbegins, Nat.le_refl _⟩)]
      · next hbegins =>
          -- one step down, and what is looked for is not above
          have hle : k ≤ i := by
            refine Nat.le_of_lt_succ (Nat.lt_of_le_of_ne h.1.2 ?_)
            rintro rfl
            exact hbegins h.1.1
          exact ih ⟨⟨h.1.1, hle⟩, fun j hj => h.2 ⟨hj.1, Nat.le_succ_of_le hj.2⟩⟩

/-- On the bytes of a text it ends at the last boundary. -/
lemma descend_bytes (cs : List Char) (i : Nat) :
    descend (bytes cs) (min i (width cs)) = some (floorBoundary cs i) := by
  refine descend_eq_some ?_
  simp only [beginsAt_bytes]
  exact isGreatest_floorBoundary_min cs i

end Text

open Text

/-- **The last boundary is found exactly.** On the bytes of every text, and from every index, or
from the end of the text if that is before it, the way down ends without counting down from
zero. It ends at the greatest boundary that is not above, and goes down by three bytes at
most. So, if a text has more bytes than allowed, then what is reported about it begins behind
the longest run of whole characters that is allowed, and ends with the text. -/
theorem floorBoundary_exact (source : String) :
    let bs := source.toUTF8.data.toList
    (∀ index,
        descend bs (min index bs.length) = some (floorBoundary source.toList index) ∧
        IsGreatest {k | IsBoundary source.toList k ∧ k ≤ min index bs.length}
          (floorBoundary source.toList index) ∧
        min index bs.length ≤ floorBoundary source.toList index + 3) ∧
      ∀ max, max < bs.length → ∃ run f, LongestRun source.toList max run ∧
        checkLength source max = .error (.fault f) ∧
        f.diagnostic =
          { kind := .limit
            message := .mk "expressions-too-long" [.plain bs.length.repr, .plain max.repr]
            span := ⟨width run, bs.length⟩ } := by
  intro bs
  have hbytes : bs = bytes source.toList := toUTF8_eq_bytes source
  have hlength : bs.length = width source.toList := by rw [hbytes, length_bytes]
  rw [hlength]
  refine ⟨fun index => ⟨?_, isGreatest_floorBoundary_min _ _, ?_⟩, fun max hlong => ?_⟩
  · rw [hbytes, descend_bytes]
  · exact Nat.le_of_lt_succ (min_lt_floorBoundary_add_four _ _)
  · exact ⟨_, _, longestRun_fitting source.toList max, if_pos hlong, rfl⟩

/-- Two bytes would end in the first umlaut of this text, so only the quotation mark is kept. -/
theorem floorBoundary_exact_umlaut :
    2 < "\"ää\"".toUTF8.data.toList.length ∧
      ∃ f, checkLength "\"ää\"" 2 = .error (.fault f) ∧ f.diagnostic.span = ⟨1, 6⟩ := by
  have hlong : 2 < "\"ää\"".toUTF8.data.toList.length := by decide
  have htext : "\"ää\"".toList = ['"', 'ä', 'ä', '"'] := by simp
  obtain ⟨run, f, hrun, hf, hdiagnostic⟩ := (floorBoundary_exact "\"ää\"").2 2 hlong
  refine ⟨hlong, f, hf, ?_⟩
  rw [hdiagnostic, hrun.width_eq, htext]
  rfl

end Condition
