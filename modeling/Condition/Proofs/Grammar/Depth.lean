/-
The depth that is recorded in a tree is its height.

* `Expr.LeafPath`: the paths from the root of a tree to its leaves;
* `Expr.height`, `Expr.isGreatest_height`: the number of nodes on a longest one;
* `Derives.depth_le_length`: the tokens of a tree are as many at least as it is deep;
* `Derives.isGreatest_depth`: every node of the tree of a phrase records that number.
-/
import Mathlib.Order.Bounds.Defs
import Condition.Proofs.Grammar

namespace Condition

namespace Expr

/-- **The paths from the root to a leaf**, as the nodes on them. -/
inductive LeafPath : Expr → List Expr → Prop where
  | empty (span : Span) : LeafPath (empty span) [empty span]
  | literal (value : Value) (span : Span) : LeafPath (literal value span) [literal value span]
  | operand {op : UnaryOperator} {symbol : String} {operand : Expr} {span : Span} {depth : Nat}
      {path : List Expr} (h : LeafPath operand path) :
      LeafPath (unary op symbol operand span depth) (unary op symbol operand span depth :: path)
  | left {op : BinaryOperator} {symbol : String} {left right : Expr} {span : Span} {depth : Nat}
      {path : List Expr} (h : LeafPath left path) :
      LeafPath (binary op symbol left right span depth)
        (binary op symbol left right span depth :: path)
  | right {op : BinaryOperator} {symbol : String} {left right : Expr} {span : Span} {depth : Nat}
      {path : List Expr} (h : LeafPath right path) :
      LeafPath (binary op symbol left right span depth)
        (binary op symbol left right span depth :: path)

/-- The height of a tree, whatever depths it records. -/
def height : Expr → Nat
  | empty _ => 1
  | literal _ _ => 1
  | unary _ _ operand _ _ => 1 + operand.height
  | binary _ _ left right _ _ => 1 + max left.height right.height

@[simp] lemma height_withSpan (e : Expr) (s : Span) : (e.withSpan s).height = e.height := by
  cases e <;> rfl

lemma LeafPath.length_le_height {e : Expr} {path : List Expr} (h : e.LeafPath path) :
    path.length ≤ e.height := by
  induction h with
  | empty | literal => exact Nat.le_refl 1
  | operand h ih | left h ih | right h ih =>
      rw [List.length_cons, height]
      omega

lemma exists_leafPath (e : Expr) : ∃ path, e.LeafPath path ∧ path.length = e.height := by
  induction e with
  | empty span => exact ⟨_, .empty span, rfl⟩
  | literal value span => exact ⟨_, .literal value span, rfl⟩
  | unary op symbol operand span depth ih =>
      obtain ⟨path, hpath, hlength⟩ := ih
      exact ⟨_, .operand hpath, by rw [List.length_cons, hlength, height, Nat.add_comm]⟩
  | binary op symbol left right span depth ihl ihr =>
      obtain ⟨lpath, hlpath, hl⟩ := ihl
      obtain ⟨rpath, hrpath, hr⟩ := ihr
      rcases Nat.le_total right.height left.height with hle | hle
      · exact ⟨_, .left hlpath, by rw [List.length_cons, hl, height, Nat.max_eq_left hle,
          Nat.add_comm]⟩
      · exact ⟨_, .right hrpath, by rw [List.length_cons, hr, height, Nat.max_eq_right hle,
          Nat.add_comm]⟩

/-- **The height is the number of nodes on a longest path** to a leaf. -/
lemma isGreatest_height (e : Expr) :
    IsGreatest {k | ∃ path, e.LeafPath path ∧ path.length = k} e.height := by
  refine ⟨e.exists_leafPath, ?_⟩
  rintro k ⟨path, hpath, rfl⟩
  exact hpath.length_le_height

end Expr

/-- A tree is not deeper than there are tokens. -/
lemma Derives.depth_le_length {p : Phrase} {ts : List Token} {opens : List Nat} {e : Expr}
    (h : Derives p ts opens e) : e.depth ≤ ts.length := by
  induction h with
  | literal => exact Nat.le_refl 1
  | group _ _ _ ih =>
      rw [Expr.depth_withSpan, List.length_cons, List.length_append]
      omega
  | primary _ ih | operand _ ih => exact ih
  | prefixed _ _ ih =>
      rw [Expr.depth_prefixed, List.length_cons]
      omega
  | joined _ _ _ _ ihl ihr =>
      rw [Expr.depth_joined, List.length_append, List.length_cons]
      omega

/-- The tree of a phrase records its height. -/
lemma Derives.depth_eq_height {p : Phrase} {ts : List Token} {opens : List Nat} {e : Expr}
    (h : Derives p ts opens e) : e.depth = e.height := by
  induction h with
  | literal => rfl
  | group _ _ _ ih => rw [Expr.depth_withSpan, Expr.height_withSpan, ih]
  | primary _ ih | operand _ ih => exact ih
  | prefixed _ _ ih => rw [Expr.depth_prefixed, ih, Expr.prefixed, Expr.height]
  | joined _ _ _ _ ihl ihr => rw [Expr.depth_joined, ihl, ihr, Expr.joined, Expr.height]

/-- **Depths are true**: every node of the tree of a phrase records the number of nodes on a
longest path from it to a leaf. -/
theorem Derives.isGreatest_depth {p : Phrase} {ts : List Token} {opens : List Nat} {e n : Expr}
    (h : Derives p ts opens e) (hn : n ∈ e.nodes) :
    IsGreatest {k | ∃ path, n.LeafPath path ∧ path.length = k} n.depth := by
  obtain ⟨-, us, -, opens', -, hus, -, -⟩ := h.treeWithin hn
  rw [hus.depth_eq_height]
  exact n.isGreatest_height

end Condition
