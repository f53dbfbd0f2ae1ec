/-
How many parentheses and prefix operators are open at a token, told by the tokens up to it.

* `Opening`, `openBehind`: what is open between two tokens, and what a token makes of it;
* `openCounts`: the number that is open at each of some tokens;
* `openAt_foldl_le`: no more are open than there are tokens;
* `Derives.openCounts_eq`: the tokens of a phrase have the numbers that the grammar gives.
-/
import Condition.Proofs.Grammar

namespace Condition

/-! ### What is open -/

/-- What a token may leave open: a parenthesis, or a prefix operator without its operand. -/
inductive Opening where
  | paren
  | operator
deriving DecidableEq, Repr

/-- What tokens of this kind open. -/
def TokenKind.opening? (kind : TokenKind) : Option Opening :=
  if kind = .leftParen then some .paren else kind.unary?.map fun _ => .operator

/-- What is still open behind an operand, if `s` was open before it, the innermost first. The
prefix operators right before the operand are complete with it. -/
def completed : List Opening → List Opening
  | .operator :: s => completed s
  | s => s

/-- What is open behind a token, if `s` is open before it. An infix operator leaves all as it
is; a closing parenthesis and a literal complete an operand. -/
def openBehind (s : List Opening) (t : Token) : List Opening :=
  match t.kind.opening? with
  | some o => o :: s
  | none =>
    if t.kind.binary?.isSome then s
    else if t.kind = .rightParen then completed s.tail
    else completed s

/-- How many are open at a token, if `s` is open before it. What the token opens is open at the
token already, and what it closes is open there still. -/
def openAt (s : List Opening) (t : Token) : Nat := (t.kind.opening?.toList ++ s).length

/-- How many are open at each of some tokens, if `s` is open before them. -/
def openCounts (s : List Opening) : List Token → List Nat
  | [] => []
  | t :: ts => openAt s t :: openCounts (openBehind s t) ts

/-! ### Tokens one by one -/

section Tokens

variable {s : List Opening} {t : Token}

lemma open_of_leftParen (ht : t.kind = .leftParen) :
    openAt s t = s.length + 1 ∧ openBehind s t = .paren :: s := by
  simp [openAt, openBehind, TokenKind.opening?, ht]

lemma open_of_unary {op : UnaryOperator} (ht : t.kind.unary? = some op) :
    openAt s t = s.length + 1 ∧ openBehind s t = .operator :: s := by
  have hkind : t.kind ≠ .leftParen := by
    intro hkind
    rw [hkind] at ht
    contradiction
  simp [openAt, openBehind, TokenKind.opening?, ht, hkind]

lemma open_of_binary {op : BinaryOperator} (ht : t.kind.binary? = some op) :
    openAt s t = s.length ∧ openBehind s t = s := by
  cases hkind : t.kind <;>
    simp_all [openAt, openBehind, TokenKind.opening?, TokenKind.unary?, TokenKind.binary?]

lemma open_of_value {v : Value} (ht : t.value? = some v) :
    openAt s t = s.length ∧ openBehind s t = completed s := by
  cases hkind : t.kind <;>
    simp_all [openAt, openBehind, TokenKind.opening?, TokenKind.unary?, TokenKind.binary?,
      Token.value?]

lemma open_of_rightParen (ht : t.kind = .rightParen) :
    openAt s t = s.length ∧ openBehind s t = completed s.tail := by
  simp [openAt, openBehind, TokenKind.opening?, TokenKind.unary?, TokenKind.binary?, ht]

end Tokens

lemma length_completed_le (s : List Opening) : (completed s).length ≤ s.length := by
  fun_induction completed s with
  | case1 s ih => exact Nat.le_succ_of_le ih
  | case2 => exact Nat.le_refl _

/-- A token opens one at most. -/
lemma length_openBehind_le (s : List Opening) (t : Token) :
    (openBehind s t).length ≤ s.length + 1 := by
  have hself := length_completed_le s
  have htail := length_completed_le s.tail
  rw [List.length_tail] at htail
  rw [openBehind]
  split
  · exact Nat.le_refl _
  · split
    · exact Nat.le_succ _
    · split <;> omega

lemma openAt_le (s : List Opening) (t : Token) : openAt s t ≤ s.length + 1 := by
  rw [openAt]
  cases t.kind.opening? <;> simp

/-- **No more are open than there are tokens**, beside what is open around them. -/
lemma openAt_foldl_le (s : List Opening) (ts : List Token) (t : Token) :
    openAt (ts.foldl openBehind s) t ≤ s.length + (ts.length + 1) := by
  induction ts generalizing s with
  | nil => exact openAt_le s t
  | cons u ts ih =>
      have hrest := ih (openBehind s u)
      have hfirst := length_openBehind_le s u
      rw [List.foldl_cons, List.length_cons]
      omega

/-- What was open before some tokens and is open behind them tells the numbers at what follows. -/
lemma openCounts_append (s : List Opening) (ts us : List Token) :
    openCounts s (ts ++ us) = openCounts s ts ++ openCounts (ts.foldl openBehind s) us := by
  induction ts generalizing s with
  | nil => rfl
  | cons t ts ih => rw [List.cons_append, openCounts, ih, openCounts, List.cons_append,
      List.foldl_cons]

lemma length_openCounts (s : List Opening) (ts : List Token) :
    (openCounts s ts).length = ts.length := by
  induction ts generalizing s with
  | nil => rfl
  | cons t ts ih => rw [openCounts, List.length_cons, ih, List.length_cons]

/-! ### Phrases -/

/-- **The grammar counts what is open.** At the tokens of a phrase as many are open as the
grammar says, beside what is open around the phrase, and behind it that is open which is open
behind an operand. A chain only stands where no prefix operator waits for an operand. -/
lemma Derives.openCounts_eq {p : Phrase} {ts : List Token} {opens : List Nat} {e : Expr}
    (h : Derives p ts opens e) (s : List Opening)
    (hs : ∀ level, p = .chain level → completed s = s) :
    openCounts s ts = opens.map (s.length + ·) ∧ ts.foldl openBehind s = completed s := by
  induction h generalizing s with
  | literal hv => simp [openCounts, open_of_value hv]
  | @group opening closing ts opens e ho h hc ih =>
      obtain ⟨hcounts, hbehind⟩ := ih (.paren :: s) fun _ _ => rfl
      rw [openCounts, openCounts_append, (open_of_leftParen ho).1, (open_of_leftParen ho).2,
        hcounts, List.foldl_cons, List.foldl_append, (open_of_leftParen ho).2, hbehind]
      constructor
      · simp [openCounts, open_of_rightParen hc, completed, Nat.add_assoc, Nat.add_comm 1]
      · simp [open_of_rightParen hc, completed]
  | primary _ ih => exact ih s nofun
  | @prefixed t op ts opens e ht h ih =>
      obtain ⟨hcounts, hbehind⟩ := ih (.operator :: s) nofun
      rw [openCounts, (open_of_unary ht).1, (open_of_unary ht).2, hcounts, List.foldl_cons,
        (open_of_unary ht).2, hbehind]
      constructor
      · simp [Nat.add_assoc, Nat.add_comm 1]
      · rfl
  | @operand level ts opens e h ih => exact ih s fun _ _ => hs level rfl
  | @joined level t op ts us opens opens' l r hl ht hop hr ihl ihr =>
      have hs := hs level rfl
      obtain ⟨hcounts, hbehind⟩ := ihl s fun _ _ => hs
      obtain ⟨hcounts', hbehind'⟩ := ihr s fun _ _ => hs
      rw [openCounts_append, hcounts, List.foldl_append, hbehind, hs, openCounts,
        (open_of_binary ht).1, (open_of_binary ht).2, hcounts', List.foldl_cons,
        (open_of_binary ht).2, hbehind', hs]
      exact ⟨by simp, rfl⟩

end Condition
