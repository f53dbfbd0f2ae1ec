/-
Cutting a text at its character boundaries.

* `Text.IsBoundary`: an offset at which whole characters end;
* `Text.fitting_width_append`, `Text.beyond_width_append`: a cut behind a leading part
  gives that part and what follows it;
* `Text.slice_append`, `Text.from?_append`: so the text between two boundaries is a
  slice, and a text can be read from a boundary on;
* `Span.Within`: the spans of the pieces of a text.
-/
import Condition.Span
import Condition.Text.Offset
import Mathlib.Tactic.Lemma

namespace Condition

namespace Text

/-- Whole characters of the text end at the offset. -/
def IsBoundary (cs : List Char) (i : Nat) : Prop :=
  ∃ front back, cs = front ++ back ∧ width front = i

/-- The bytes of a leading part hold that part. -/
lemma fitting_width_append (front back : List Char) :
    fitting (width front) (front ++ back) = front := by
  induction front with
  | nil =>
      cases back with
      | nil => rfl
      | cons c back =>
          have hc : ¬c.utf8Size ≤ 0 := Nat.not_le.mpr c.utf8Size_pos
          rw [List.nil_append, width_nil, fitting, if_neg hc]
  | cons c front ih =>
      rw [List.cons_append, width_cons, fitting, if_pos (Nat.le_add_right _ _),
        Nat.add_sub_cancel_left, ih]

/-- What lies behind the bytes of a leading part. -/
lemma beyond_width_append (front back : List Char) :
    beyond (width front) (front ++ back) = back := by
  have h := fitting_append_beyond (width front) (front ++ back)
  rw [fitting_width_append] at h
  exact List.append_cancel_left h

/-- **A slice is what stands between its bounds.** -/
theorem slice_append (before mid after : List Char) :
    slice (before ++ (mid ++ after)) (width before) (width before + width mid) = mid := by
  rw [slice, beyond_width_append, Nat.add_sub_cancel_left, fitting_width_append]

/-- A text can be read from behind a leading part on. -/
lemma from?_append (front back : List Char) :
    from? (front ++ back) (width front) = some back := by
  induction front with
  | nil => cases back <;> rfl
  | cons c front ih =>
      obtain ⟨n, hn⟩ := Nat.exists_eq_add_of_lt c.utf8Size_pos
      have hwidth : width (c :: front) = n + width front + 1 := by
        rw [width_cons]
        omega
      have hle : c.utf8Size ≤ n + width front + 1 := by omega
      have hsub : n + width front + 1 - c.utf8Size = width front := by omega
      rw [List.cons_append, hwidth, from?, if_pos hle, hsub, ih]

/-- A text with characters has bytes. -/
lemma width_pos {cs : List Char} (h : cs ≠ []) : 0 < width cs := by
  obtain ⟨c, cs, rfl⟩ := List.exists_cons_of_ne_nil h
  exact Nat.lt_of_lt_of_le c.utf8Size_pos (Nat.le_add_right _ _)

/-- Only the empty text has no bytes. -/
lemma width_eq_zero {cs : List Char} : width cs = 0 ↔ cs = [] := by
  constructor
  · intro h
    by_cases hne : cs = []
    · exact hne
    · exact absurd h (Nat.ne_of_gt (width_pos hne))
  · rintro rfl
    rfl

/-- Two leading parts of a text with equally many bytes are one. -/
lemma append_inj_of_width {front back front' back' : List Char}
    (h : front ++ back = front' ++ back') (hwidth : width front = width front') :
    front = front' ∧ back = back' := by
  have hfront : front = front' := by
    rw [← fitting_width_append front back, ← fitting_width_append front' back', h, hwidth]
  subst hfront
  exact ⟨rfl, List.append_cancel_left h⟩

end Text

/-- **The span of a piece of a text**: it is not empty, ends in the text, and begins and ends
between characters. -/
structure Span.Within (s : Span) (cs : List Char) : Prop where
  start_lt_stop : s.start < s.stop
  stop_le_width : s.stop ≤ Text.width cs
  isBoundary_start : Text.IsBoundary cs s.start
  isBoundary_stop : Text.IsBoundary cs s.stop

/-- What stands between two parts of a text is a piece of it. -/
lemma Span.within_append (before after : List Char) {mid : List Char} (hmid : mid ≠ []) :
    Span.Within ⟨Text.width before, Text.width before + Text.width mid⟩
      (before ++ (mid ++ after)) where
  start_lt_stop := Nat.lt_add_of_pos_right (Text.width_pos hmid)
  stop_le_width := by
    rw [Text.width_append, Text.width_append, ← Nat.add_assoc]
    exact Nat.le_add_right _ _
  isBoundary_start := ⟨before, mid ++ after, rfl, rfl⟩
  isBoundary_stop := ⟨before ++ mid, after, (List.append_assoc ..).symm, Text.width_append _ _⟩

end Condition
