/-
The last character boundary that is not past an offset.

* `Text.LongestRun`: the longest run of leading characters that fits in a number of bytes,
  which is what `fitting` keeps (`longestRun_fitting`);
* `Text.isGreatest_floorBoundary`: the last boundary is what `floorBoundary` finds, for every
  offset, and it is behind that run (`LongestRun.width_eq`);
* `Text.min_lt_floorBoundary_add_four`: an offset in the text is at most three bytes behind it;
* `Text.IsBoundary.split_behind`: a boundary behind a leading part cuts what follows that
  part.
-/
import Mathlib.Order.Bounds.Defs
import Condition.Proofs.Text.Boundary

namespace Condition.Text

variable {cs : List Char} {i k : Nat}

/-! ### Boundaries -/

lemma isBoundary_nil : IsBoundary [] k ↔ k = 0 := by
  constructor
  · rintro ⟨front, back, hnil, rfl⟩
    obtain ⟨rfl, -⟩ := List.append_eq_nil_iff.mp hnil.symm
    rfl
  · rintro rfl
    exact ⟨[], [], rfl, rfl⟩

/-- The boundaries behind the first character are those of the rest of the text. -/
lemma isBoundary_cons {c : Char} :
    IsBoundary (c :: cs) k ↔ k = 0 ∨ ∃ j, IsBoundary cs j ∧ k = c.utf8Size + j := by
  constructor
  · rintro ⟨front, back, hcons, rfl⟩
    cases front with
    | nil => exact .inl rfl
    | cons d front =>
        obtain ⟨rfl, rfl⟩ := List.cons.inj hcons
        exact .inr ⟨_, ⟨front, back, rfl, rfl⟩, rfl⟩
  · rintro (rfl | ⟨j, ⟨front, back, rfl, rfl⟩, rfl⟩)
    · exact ⟨[], _, rfl, rfl⟩
    · exact ⟨c :: front, back, rfl, rfl⟩

lemma isBoundary_width (cs : List Char) : IsBoundary cs (width cs) :=
  ⟨cs, [], (List.append_nil cs).symm, rfl⟩

/-- A leading part is no wider than the text. -/
lemma width_le_of_leads {front : List Char} (h : front <+: cs) : width front ≤ width cs := by
  obtain ⟨back, rfl⟩ := h
  rw [width_append]
  exact Nat.le_add_right _ _

/-- No boundary is past the end of the text. -/
lemma IsBoundary.le_width (h : IsBoundary cs k) : k ≤ width cs := by
  obtain ⟨front, back, rfl, rfl⟩ := h
  exact width_le_of_leads ⟨back, rfl⟩

/-- **A boundary behind a leading part** cuts what follows that part in two. -/
lemma IsBoundary.split_behind {front back : List Char} (h : IsBoundary (front ++ back) k)
    (hle : width front ≤ k) :
    ∃ mid after, back = mid ++ after ∧ k = width front + width mid := by
  obtain ⟨front', back', happend, rfl⟩ := h
  rcases List.append_eq_append_iff.mp happend with ⟨mid, rfl, rfl⟩ | ⟨mid, rfl, rfl⟩
  · exact ⟨mid, back', rfl, width_append _ _⟩
  · cases mid with
    | nil => exact ⟨[], back, rfl, by rw [List.append_nil, width_nil, Nat.add_zero]⟩
    | cons c mid =>
        -- the boundary is not before the end of the leading part, so this is none
        have hpos := c.utf8Size_pos
        rw [width_append, width_cons] at hle
        omega

/-- A text has at least as many bytes as characters. -/
lemma length_le_width (cs : List Char) : cs.length ≤ width cs := by
  induction cs with
  | nil => exact Nat.le_refl 0
  | cons c cs ih =>
      have hpos := c.utf8Size_pos
      rw [List.length_cons, width_cons]
      omega

/-! ### The longest run that fits -/

/-- **The longest run** of whole leading characters that takes at most `n` bytes. -/
structure LongestRun (cs : List Char) (n : Nat) (run : List Char) : Prop where
  leads : run <+: cs
  width_le : width run ≤ n
  longest : ∀ front, front <+: cs → width front ≤ n → front <+: run

/-- What fits begins with every leading part that fits. -/
lemma leads_fitting {front : List Char} (back : List Char) (h : width front ≤ i) :
    front <+: fitting i (front ++ back) := by
  induction front generalizing i with
  | nil => exact List.nil_prefix
  | cons c front ih =>
      rw [width_cons] at h
      have hc : c.utf8Size ≤ i := by omega
      rw [List.cons_append, fitting, if_pos hc]
      exact List.cons_prefix_cons.mpr ⟨rfl, ih (by omega)⟩

/-- **The characters that fit** are the longest run. -/
lemma longestRun_fitting (cs : List Char) (i : Nat) : LongestRun cs i (fitting i cs) where
  leads := ⟨beyond i cs, fitting_append_beyond i cs⟩
  width_le := floorBoundary_le cs i
  longest := by
    rintro front ⟨back, rfl⟩ hle
    exact leads_fitting back hle

/-- **The last boundary** is behind the longest run. -/
lemma LongestRun.width_eq {run : List Char} (h : LongestRun cs i run) :
    width run = floorBoundary cs i := by
  have hfitting := longestRun_fitting cs i
  refine Nat.le_antisymm (width_le_of_leads ?_) (width_le_of_leads ?_)
  · exact hfitting.longest run h.leads h.width_le
  · exact h.longest (fitting i cs) hfitting.leads hfitting.width_le

/-! ### The last boundary -/

lemma isBoundary_floorBoundary (cs : List Char) (i : Nat) : IsBoundary cs (floorBoundary cs i) :=
  ⟨fitting i cs, beyond i cs, (fitting_append_beyond i cs).symm, rfl⟩

/-- No boundary is between the one that is found and the offset. -/
lemma IsBoundary.le_floorBoundary (h : IsBoundary cs k) (hle : k ≤ i) :
    k ≤ floorBoundary cs i := by
  obtain ⟨front, back, rfl, rfl⟩ := h
  exact width_le_of_leads (leads_fitting back hle)

/-- **The last boundary** that is not past the offset. -/
theorem isGreatest_floorBoundary (cs : List Char) (i : Nat) :
    IsGreatest {k | IsBoundary cs k ∧ k ≤ i} (floorBoundary cs i) :=
  ⟨⟨isBoundary_floorBoundary cs i, floorBoundary_le cs i⟩, fun _ hk =>
    hk.1.le_floorBoundary hk.2⟩

/-- An offset past the end of the text counts as its end. -/
lemma isGreatest_floorBoundary_min (cs : List Char) (i : Nat) :
    IsGreatest {k | IsBoundary cs k ∧ k ≤ min i (width cs)} (floorBoundary cs i) := by
  obtain ⟨⟨hboundary, hle⟩, hgreatest⟩ := isGreatest_floorBoundary cs i
  refine ⟨⟨hboundary, Nat.le_min.mpr ⟨hle, hboundary.le_width⟩⟩, fun k hk => ?_⟩
  exact hgreatest ⟨hk.1, (Nat.le_min.mp hk.2).1⟩

/-- **At most three bytes are lost**: no character is wider than four. -/
theorem min_lt_floorBoundary_add_four (cs : List Char) (i : Nat) :
    min i (width cs) < floorBoundary cs i + 4 := by
  rw [floorBoundary]
  induction cs generalizing i with
  | nil =>
      rw [width_nil]
      omega
  | cons c cs ih =>
      by_cases hc : c.utf8Size ≤ i
      · have hrest := ih (i - c.utf8Size)
        rw [fitting, if_pos hc, width_cons, width_cons]
        omega
      · have hwide := c.utf8Size_le_four
        rw [fitting, if_neg hc, width_nil]
        omega

end Condition.Text
