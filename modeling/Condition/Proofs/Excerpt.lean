/-
What an excerpt shows, and where its marks stand.

* `Excerpt.Parts`: the parts of a text that the places of an excerpt cut it into;
* `Excerpt.exists_parts`: the places of an excerpt are boundaries in their order, so that
  there are such parts;
* `Excerpt.Parts.shown_eq`, `Excerpt.Parts.marks_eq`: the two lines, told by the parts;
* `excerpt_shows_span`: the excerpt around any place shows the text around it, with a caret
  under each of its characters that is shown.
-/
import Condition.Excerpt
import Condition.Proofs.Text.Floor

namespace Condition

open Text

namespace Excerpt

/-! ### The places of an excerpt -/

section Places

variable (source : List Char) (start length : Nat)

/-- The window opens at most half its breadth, and the rest of a character, before the marked
part. -/
lemma window_start_bounds :
    (around source start length).window.start ≤ (around source start length).marked.start ∧
      (around source start length).marked.start <
        (around source start length).window.start + 34 := by
  have hle := floorBoundary_le source (floorBoundary source start - breadth / 2)
  have hinside := (isBoundary_floorBoundary source start).le_width
  have hlt := min_lt_floorBoundary_add_four source (floorBoundary source start - breadth / 2)
  simp only [around, breadth] at hle hlt ⊢
  omega

/-- The window ends at a boundary behind its breadth, which is never before the marked part. -/
lemma window_stop_eq :
    (around source start length).window.stop =
      floorBoundary source ((around source start length).window.start + breadth) := by
  have hstart := window_start_bounds source start length
  have hmarked : (around source start length).marked.start ≤
      floorBoundary source ((around source start length).window.start + breadth) := by
    refine (isBoundary_floorBoundary source start).le_floorBoundary ?_
    simp only [around, breadth] at hstart ⊢
    omega
  exact Nat.max_eq_left hmarked

/-- **The window** is no broader than an excerpt, and it shows the text behind the start of the
marked part up to 24 bytes of it. -/
lemma window_stop_bounds :
    (around source start length).window.stop ≤
        (around source start length).window.start + breadth ∧
      min (width source) ((around source start length).marked.start + 24) ≤
        (around source start length).window.stop := by
  have hstart := window_start_bounds source start length
  rw [window_stop_eq]
  refine ⟨floorBoundary_le _ _, ?_⟩
  rcases Nat.le_total (width source) ((around source start length).window.start + breadth) with
    hend | hend
  · exact Nat.le_trans (Nat.min_le_left _ _) ((isBoundary_width source).le_floorBoundary hend)
  · have hlt := min_lt_floorBoundary_add_four source
      ((around source start length).window.start + breadth)
    simp only [breadth] at hend hlt ⊢
    omega

/-- **The marked part** ends with the window, or before it. -/
lemma marked_stop_bounds :
    (around source start length).marked.start ≤ (around source start length).marked.stop ∧
      (around source start length).marked.stop ≤ (around source start length).window.stop ∧
      (around source start length).marked.stop ≤
        (around source start length).marked.start + length := by
  have hstop := floorBoundary_le source
    (min ((around source start length).marked.start + length)
      (around source start length).window.stop)
  refine ⟨?_, Nat.le_trans hstop (Nat.min_le_right _ _), Nat.le_trans hstop (Nat.min_le_left _ _)⟩
  refine (isBoundary_floorBoundary source start).le_floorBoundary ?_
  exact Nat.le_min.mpr ⟨Nat.le_add_right _ _, Nat.le_max_right _ _⟩

end Places

/-! ### The parts of the text -/

/-- **The parts into which an excerpt cuts its text**: what is before the window, the window up
to the marked part, the marked part, the rest of the window, and what is behind it. -/
structure Parts (e : Excerpt) (source before left marked right after : List Char) : Prop where
  source_eq : source = before ++ (left ++ (marked ++ (right ++ after)))
  window_eq : e.window = ⟨width before, width before + width (left ++ (marked ++ right))⟩
  marked_eq : e.marked = ⟨width before + width left, width before + width left + width marked⟩

/-- **An excerpt cuts its text** between characters only, wherever it is asked for. -/
lemma exists_parts (source : List Char) (start length : Nat) :
    ∃ before left marked right after,
      (around source start length).Parts source before left marked right after := by
  have hleft := (window_start_bounds source start length).1
  obtain ⟨hmarked, hright, -⟩ := marked_stop_bounds source start length
  have hfirst : IsBoundary source (around source start length).window.start :=
    isBoundary_floorBoundary _ _
  have hstart : IsBoundary source (around source start length).marked.start :=
    isBoundary_floorBoundary _ _
  have hstop : IsBoundary source (around source start length).marked.stop :=
    isBoundary_floorBoundary _ _
  have hlast : IsBoundary source (around source start length).window.stop := by
    rw [window_stop_eq]
    exact isBoundary_floorBoundary _ _
  generalize around source start length = e at *
  obtain ⟨⟨first, last⟩, ⟨first', last'⟩⟩ := e
  simp only at *
  -- each place cuts the text behind the one before it
  obtain ⟨before, rest, rfl, rfl⟩ := hfirst
  obtain ⟨left, rest, rfl, rfl⟩ := hstart.split_behind hleft
  rw [← List.append_assoc] at hstop hlast
  rw [← width_append] at hmarked
  obtain ⟨marked, rest, rfl, rfl⟩ := hstop.split_behind hmarked
  rw [← List.append_assoc] at hlast
  rw [← width_append] at hright
  obtain ⟨right, after, rfl, rfl⟩ := hlast.split_behind hright
  refine ⟨before, left, marked, right, after, rfl, ?_, ?_⟩
  · simp only [width_append, Nat.add_assoc]
  · simp only [width_append]

namespace Parts

variable {e : Excerpt} {source before left marked right after : List Char}

/-- The window stands between two parts of the text. -/
lemma slice_window (h : e.Parts source before left marked right after) :
    slice source e.window.start e.window.stop = left ++ (marked ++ right) := by
  have hsource : source = before ++ ((left ++ (marked ++ right)) ++ after) := by
    rw [h.source_eq]
    simp only [List.append_assoc]
  rw [h.window_eq, hsource, slice_append]

/-- The window up to the marked part. -/
lemma slice_left (h : e.Parts source before left marked right after) :
    slice source e.window.start e.marked.start = left := by
  rw [h.window_eq, h.marked_eq, h.source_eq, slice_append]

/-- The marked part. -/
lemma slice_marked (h : e.Parts source before left marked right after) :
    slice source e.marked.start e.marked.stop = marked := by
  have hsource : source = (before ++ left) ++ (marked ++ (right ++ after)) := by
    rw [h.source_eq, List.append_assoc]
  rw [h.marked_eq, hsource, ← width_append, slice_append]

/-- **The first line** shows the parts in the window, between the ellipses. -/
lemma shown_eq (h : e.Parts source before left marked right after) :
    e.shown source = e.lead ++ (left ++ (marked ++ right)).map plain ++ e.trail source := by
  rw [shown, h.slice_window]

/-- **The second line** has a caret for each character of the marked part, behind a space for
each character that the first line has before it. -/
lemma marks_eq (h : e.Parts source before left marked right after) :
    e.marks source =
      List.replicate (e.lead.length + left.length) ' ' ++ List.replicate marked.length '^' := by
  rw [marks, h.slice_left, h.slice_marked]

/-- The window ends at a boundary. -/
lemma isBoundary_window_stop (h : e.Parts source before left marked right after) :
    IsBoundary source e.window.stop := by
  refine ⟨before ++ (left ++ (marked ++ right)), after, ?_, ?_⟩
  · rw [h.source_eq]
    simp only [List.append_assoc]
  · rw [h.window_eq, width_append]

/-- The marked part has as many bytes as its span. -/
lemma width_marked (h : e.Parts source before left marked right after) :
    e.marked.stop = e.marked.start + width marked := by
  rw [h.marked_eq]

end Parts

/-! ### The two lines -/

lemma plain_ne_lineFeed (c : Char) : plain c ≠ '\n' := by
  rw [plain]
  split
  · decide
  · next h =>
      rintro rfl
      exact h rfl

/-- **No line is broken**: the first line has no line feed. -/
lemma lineFeed_not_mem_shown (source : List Char) (e : Excerpt) : '\n' ∉ e.shown source := by
  have hdots : '\n' ∉ ellipsis := by decide
  have hlead : '\n' ∉ e.lead := by
    rw [lead]
    split
    · exact hdots
    · exact List.not_mem_nil
  have htrail : '\n' ∉ e.trail source := by
    rw [trail]
    split
    · exact hdots
    · exact List.not_mem_nil
  have hwindow : '\n' ∉ (slice source e.window.start e.window.stop).map plain := by
    intro hmem
    obtain ⟨c, -, hc⟩ := List.mem_map.mp hmem
    exact plain_ne_lineFeed c hc
  simp only [shown, List.mem_append, not_or]
  exact ⟨⟨hlead, hwindow⟩, htrail⟩

/-- The second line has none either. -/
lemma lineFeed_not_mem_marks (source : List Char) (e : Excerpt) : '\n' ∉ e.marks source := by
  simp [marks, List.mem_replicate]

/-- **Where an excerpt has to be**: its marked part starts at the last boundary that is not past
`start`, and ends at the last one that is not past `length` bytes more, nor past the window. The
window has at most 60 bytes, and 24 of them or the rest of the text are behind that start. The
sum of places may stop at any number that the text has no more bytes than. -/
structure Around (e : Excerpt) (source : List Char) (start length : Nat) : Prop where
  marked_start : IsGreatest {k | IsBoundary source k ∧ k ≤ min start (width source)} e.marked.start
  marked_stop : ∀ bound, width source ≤ bound →
    IsGreatest
      {k | IsBoundary source k ∧ k ≤ min (min (e.marked.start + length) bound) e.window.stop}
      e.marked.stop
  window_length : e.window.stop - e.window.start ≤ 60
  window_stop : min (width source) (e.marked.start + 24) ≤ e.window.stop

/-- **Every excerpt is where it has to be.** -/
lemma around_spec (source : List Char) (start length : Nat) :
    (around source start length).Around source start length := by
  obtain ⟨hstop, hbehind⟩ := window_stop_bounds source start length
  have hend : (around source start length).window.stop ≤ width source := by
    rw [window_stop_eq]
    exact (isBoundary_floorBoundary _ _).le_width
  refine ⟨?_, fun bound hbound => ?_, Nat.sub_le_iff_le_add'.mpr hstop, hbehind⟩
  · exact isGreatest_floorBoundary_min source start
  · -- the window ends in the text, so the sum is cut off before it can stop
    have hsum : min (min ((around source start length).marked.start + length) bound)
          (around source start length).window.stop =
        min ((around source start length).marked.start + length)
          (around source start length).window.stop := by
      omega
    rw [hsum]
    exact isGreatest_floorBoundary source _

namespace Around

variable {e : Excerpt} {source before left marked right after : List Char} {start length : Nat}

/-- **No more carets than bytes are asked for.** -/
lemma length_marked_le (h : e.Around source start length)
    (hparts : e.Parts source before left marked right after) : marked.length ≤ length := by
  have hstop := (Nat.le_min.mp (h.marked_stop _ (Nat.le_refl _)).1.2).1
  have hwidth := hparts.width_marked
  have hlength := length_le_width marked
  omega

/-- **A caret at least** if characters of the text are asked for. -/
lemma length_marked_pos (h : e.Around source start length)
    (hparts : e.Parts source before left marked right after) (hlength : 0 < length)
    (hstart : IsBoundary source start) (hstop : IsBoundary source (start + length)) :
    0 < marked.length := by
  have hstart_le := hstart.le_width
  have hstop_le := hstop.le_width
  -- the marked part starts where it is asked for
  have hfrom : e.marked.start = start := by
    have hle := (Nat.le_min.mp h.marked_start.1.2).1
    exact Nat.le_antisymm hle (h.marked_start.2 ⟨hstart, by omega⟩)
  have hbehind := h.window_stop
  have hgreatest := h.marked_stop _ (Nat.le_refl _)
  rw [hfrom] at hbehind hgreatest
  have hlt : start < e.marked.stop := by
    rcases Nat.le_total (start + length) e.window.stop with hinside | hcut
    · have hle := hgreatest.2 ⟨hstop, by omega⟩
      omega
    · have hend := hparts.isBoundary_window_stop
      have hend_le := hend.le_width
      have hle := hgreatest.2 ⟨hend, by omega⟩
      omega
  have hwidth := hparts.width_marked
  refine List.length_pos_iff.mpr ?_
  rintro rfl
  rw [width_nil] at hwidth
  omega

end Around

end Excerpt

/-- **An excerpt shows the text around a place, and marks it exactly.** Wherever the excerpt is
asked for, its places cut the text between characters, in their order: the parts `left`,
`marked` and `right` are in the window. The first line has the window with white space shown
as spaces, and an ellipsis on each side where text was cut off; the second one has a caret
under each character of `marked` and nothing else but spaces before. There is no other line
feed than the one between the lines, there are no more carets than bytes are asked for, and
there is one at least if these bytes are characters of the text. -/
theorem excerpt_shows_span (source : String) (start length : Nat) :
    let e := Excerpt.around source.toList start length
    e.Around source.toList start length ∧
      ∃ before left marked right after lead trail : List Char,
        e.Parts source.toList before left marked right after ∧
        lead = (if 0 < e.window.start then ['.', '.', '.'] else []) ∧
        trail = (if e.window.stop < width source.toList then ['.', '.', '.'] else []) ∧
        (excerpt source start length).toList =
          (lead ++ (left ++ (marked ++ right)).map (fun c => if isWhiteSpace c then ' ' else c) ++
              trail) ++
            '\n' :: (List.replicate (lead.length + left.length) ' ' ++
              List.replicate marked.length '^') ∧
        (excerpt source start length).toList.count '\n' = 1 ∧
        marked.length ≤ length ∧
        (0 < length → IsBoundary source.toList start →
          IsBoundary source.toList (start + length) → 0 < marked.length) := by
  intro e
  have haround : e.Around source.toList start length := Excerpt.around_spec _ _ _
  obtain ⟨before, left, marked, right, after, hparts⟩ :=
    Excerpt.exists_parts source.toList start length
  have htext : (excerpt source start length).toList =
      e.shown source.toList ++ '\n' :: e.marks source.toList := String.toList_ofList
  refine ⟨haround, before, left, marked, right, after, e.lead, e.trail source.toList, hparts, rfl,
    rfl, ?_, ?_, haround.length_marked_le hparts, haround.length_marked_pos hparts⟩
  · rw [htext, hparts.shown_eq, hparts.marks_eq]
    rfl
  · have hshown := Excerpt.lineFeed_not_mem_shown source.toList e
    have hmarks := Excerpt.lineFeed_not_mem_marks source.toList e
    rw [htext, List.count_append, List.count_cons_self, List.count_eq_zero_of_not_mem hshown,
      List.count_eq_zero_of_not_mem hmarks]

end Condition
