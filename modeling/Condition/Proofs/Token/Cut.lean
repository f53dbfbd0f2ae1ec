/-
The tokens of a piece of a text.

* `Tiled.moved`, `Tiled.of_moved`: the tokens of a text further on are its tokens here,
  moved;
* `Tiled.from_head`, `Tiled.upto_last`: the texts before and behind the place where a token
  begins, or ends;
* `Tiled.cut_around`, `Tiled.cut`: the text from a token to a later one has just the tokens
  between, for no longest match gets longer when the text ends behind it.
-/
import Condition.Proofs.Grammar.Moved
import Condition.Proofs.Token.Tiling

namespace Condition

variable {offset : Nat} {cs : List Char} {ts : List Token}

/-- A text has its tokens further on. -/
lemma Tiled.moved (h : Tiled offset cs ts) (k : Nat) :
    Tiled (offset + k) cs (ts.map (Token.moved k)) := by
  induction h with
  | nil => exact .nil
  | blank hc _ ih =>
      rw [Nat.add_right_comm] at ih
      exact .blank hc ih
  | token hw _ ih =>
      rw [Nat.add_right_comm] at ih
      exact .token hw ih

/-- **The scanner knows no places**: the same text further on has the same tokens. -/
lemma Tiled.of_moved {k : Nat} (h : Tiled (offset + k) cs ts) :
    ∃ us, Tiled offset cs us ∧ ts = us.map (Token.moved k) := by
  generalize hstart : offset + k = start at h
  induction h generalizing offset with
  | nil => exact ⟨[], .nil, rfl⟩
  | @blank start c cs ts hc _ ih =>
      have hnext : offset + c.utf8Size + k = start + c.utf8Size := by omega
      obtain ⟨us, hus, rfl⟩ := ih hnext
      exact ⟨us, .blank hc hus, rfl⟩
  | @token start kind w cs ts hw _ ih =>
      have hnext : offset + Text.width w + k = start + Text.width w := by omega
      obtain ⟨us, hus, rfl⟩ := ih hnext
      exact ⟨_, .token hw hus, by rw [← hstart]; rfl⟩

/-! ### Where some of the tokens begin and end -/

/-- The text from a token on, and the text of the tokens before it. -/
lemma Tiled.from_head {us vs : List Token} (h : Tiled offset cs (us ++ vs)) (hne : vs ≠ []) :
    ∃ before rest, cs = before ++ rest ∧ (vs.head hne).offset = offset + Text.width before ∧
      Tiled offset before us ∧ Tiled (offset + Text.width before) rest vs := by
  obtain ⟨t, vs, rfl⟩ := List.exists_cons_of_ne_nil hne
  obtain ⟨before, after, rfl, hoffset, hmatch, hbefore, hafter⟩ := h.split
  refine ⟨before, _, rfl, hoffset, hbefore, ?_⟩
  rw [← hoffset]
  exact .of_longestMatch hmatch hafter

/-- The text up to the end of a token, and the text of the tokens behind it. -/
lemma Tiled.upto_last {us vs : List Token} (h : Tiled offset cs (us ++ vs)) (hne : us ≠ []) :
    ∃ before rest, cs = before ++ rest ∧
      (us.getLast hne).span.stop = offset + Text.width before ∧
      Tiled offset before us ∧ Tiled (offset + Text.width before) rest vs := by
  generalize hws : us ++ vs = ws at h
  induction h generalizing us with
  | nil => exact absurd (List.append_eq_nil_iff.mp hws).1 hne
  | @blank offset c cs ws hc _ ih =>
      obtain ⟨before, rest, rfl, hlast, hbefore, hrest⟩ := ih hne hws
      rw [Nat.add_assoc] at hlast hrest
      exact ⟨c :: before, rest, rfl, hlast, .blank hc hbefore, hrest⟩
  | @token offset kind w cs ws hw h ih =>
      cases us with
      | nil => exact absurd rfl hne
      | cons t us =>
          obtain ⟨rfl, htail⟩ := List.cons.inj hws
          by_cases hus : us = []
          · subst hus
            obtain rfl : vs = ws := htail
            refine ⟨w ++ [], cs, by rw [List.append_nil], ?_, .token hw.truncate .nil, ?_⟩
            · rw [List.getLast_singleton, Token.span, String.toList_ofList, List.append_nil]
            · rwa [List.append_nil]
          · obtain ⟨before, rest, rfl, hlast, hbefore, hrest⟩ := ih hus htail
            rw [Nat.add_assoc, ← Text.width_append] at hlast hrest
            rw [← List.getLast_cons hus] at hlast
            exact ⟨w ++ before, rest, by rw [List.append_assoc], hlast,
              .token hw.truncate hbefore, hrest⟩

/-! ### The text of some of the tokens -/

/-- A text with tokens is not empty. -/
lemma Tiled.width_pos (h : Tiled offset cs ts) (hne : ts ≠ []) : 0 < Text.width cs := by
  cases h with
  | nil => exact absurd rfl hne
  | @blank _ c => exact Nat.lt_of_lt_of_le c.utf8Size_pos (Nat.le_add_right _ _)
  | token hw =>
      obtain ⟨c, v, rfl, -⟩ := hw.exists_cons
      rw [List.cons_append, Text.width_cons]
      exact Nat.lt_of_lt_of_le c.utf8Size_pos (Nat.le_add_right _ _)

/-- **The text from a token to a later one**, between the texts of the tokens before and
behind. -/
theorem Tiled.cut_around {front us back : List Token}
    (h : Tiled offset cs (front ++ us ++ back)) (hne : us ≠ []) :
    ∃ before mid after, cs = before ++ (mid ++ after) ∧
      (us.head hne).offset = offset + Text.width before ∧
      (us.getLast hne).span.stop = offset + Text.width before + Text.width mid ∧
      Tiled offset before front ∧ Tiled (offset + Text.width before) mid us ∧
      Tiled (offset + Text.width before + Text.width mid) after back := by
  rw [List.append_assoc] at h
  obtain ⟨before, rest, rfl, hhead, hbefore, hrest⟩ :=
    h.from_head (List.append_ne_nil_of_left_ne_nil hne back)
  obtain ⟨mid, after, rfl, hlast, hmid, hafter⟩ := hrest.upto_last hne
  rw [List.head_append_of_ne_nil hne] at hhead
  exact ⟨before, mid, after, rfl, hhead, hlast, hbefore, hmid, hafter⟩

/-- **The text from a token to a later one** has just the tokens from the one to the
other. -/
theorem Tiled.cut {front us back : List Token} (h : Tiled offset cs (front ++ us ++ back))
    (hne : us ≠ []) :
    ∃ before mid after, cs = before ++ (mid ++ after) ∧
      (us.head hne).offset = offset + Text.width before ∧
      (us.getLast hne).span.stop = offset + Text.width before + Text.width mid ∧
      Tiled (offset + Text.width before) mid us := by
  obtain ⟨before, mid, after, hcs, hhead, hlast, -, hmid, -⟩ := h.cut_around hne
  exact ⟨before, mid, after, hcs, hhead, hlast, hmid⟩

end Condition
