/-
Reading tokens from left to right: what may come next, whatever the levels of the
operators are.

* `Reading`: whether an operand is wanted or complete, and how many parentheses
  are open; `Reading.step`, `Reading.run`: what a token, and a list of tokens,
  make of it;
* `Reading.stuck_unique`: the token at which reading stops is the only one;
* `Reading.run_deeper`: parentheses around everything change nothing inside;
* `Reading.run_leaves`: what stands in a pair of parentheses is one operand;
* `Derives.run`: a phrase is read as one operand.
-/
import Condition.Proofs.Grammar

namespace Condition

/-! ### Reading -/

/-- A place between tokens, by what is to the left of it. -/
inductive Reading where
  /-- An operand has to follow; `depth` parentheses are open. -/
  | wanted (depth : Nat)
  /-- An operand is complete; `depth` parentheses are open. -/
  | complete (depth : Nat)
deriving DecidableEq, Repr

namespace Reading

/-- What a token makes of a place, unless it cannot stand there. -/
def step : Reading → Token → Option Reading
  | wanted depth, t =>
    if t.kind = .leftParen then some (wanted (depth + 1))
    else if t.kind.unary?.isSome then some (wanted depth)
    else if t.value?.isSome then some (complete depth)
    else none
  | complete depth, t =>
    if t.kind.binary?.isSome then some (wanted depth)
    else if t.kind = .rightParen then
      match depth with
      | 0 => none
      | n + 1 => some (complete n)
    else none

/-- What a list of tokens makes of a place. -/
def run (r : Reading) (ts : List Token) : Option Reading := ts.foldlM step r

@[simp] lemma run_nil (r : Reading) : r.run [] = some r := rfl

@[simp] lemma run_cons (r : Reading) (t : Token) (ts : List Token) :
    r.run (t :: ts) = (r.step t).bind fun r' => r'.run ts := rfl

lemma run_append (r : Reading) (ts us : List Token) :
    r.run (ts ++ us) = (r.run ts).bind fun r' => r'.run us :=
  List.foldlM_append

/-- The number of open parentheses. -/
def depth : Reading → Nat
  | wanted depth => depth
  | complete depth => depth

/-- The same place with `k` more parentheses around everything. -/
def deeper (k : Nat) : Reading → Reading
  | wanted depth => wanted (depth + k)
  | complete depth => complete (depth + k)

/-- Where an operand is wanted, a parenthesis opens, a prefix operator may stand, and
a literal completes the operand. -/
lemma step_wanted {d : Nat} {t : Token} {r : Reading} :
    (wanted d).step t = some r ↔
      (t.kind = .leftParen ∧ r = wanted (d + 1)) ∨ (t.kind.unary?.isSome ∧ r = wanted d) ∨
        (t.value?.isSome ∧ r = complete d) := by
  rw [eq_comm (a := r), eq_comm (a := r), eq_comm (a := r)]
  cases hk : t.kind <;> simp [step, Token.value?, TokenKind.unary?, hk]

/-- After an operand, an infix operator wants another one, and a parenthesis closes if
one is open. -/
lemma step_complete {d : Nat} {t : Token} {r : Reading} :
    (complete d).step t = some r ↔
      (t.kind.binary?.isSome ∧ r = wanted d) ∨
        (t.kind = .rightParen ∧ ∃ n, d = n + 1 ∧ r = complete n) := by
  cases hk : t.kind <;> cases d <;> simp [step, TokenKind.binary?, hk] <;> exact eq_comm

lemma step_of_leftParen {d : Nat} {t : Token} (h : t.kind = .leftParen) :
    (wanted d).step t = some (wanted (d + 1)) :=
  step_wanted.mpr (.inl ⟨h, rfl⟩)

lemma step_of_unary {d : Nat} {t : Token} {op : UnaryOperator} (h : t.kind.unary? = some op) :
    (wanted d).step t = some (wanted d) :=
  step_wanted.mpr (.inr (.inl ⟨by rw [h]; rfl, rfl⟩))

lemma step_of_value {d : Nat} {t : Token} {v : Value} (h : t.value? = some v) :
    (wanted d).step t = some (complete d) :=
  step_wanted.mpr (.inr (.inr ⟨by rw [h]; rfl, rfl⟩))

lemma step_of_binary {d : Nat} {t : Token} {op : BinaryOperator} (h : t.kind.binary? = some op) :
    (complete d).step t = some (wanted d) :=
  step_complete.mpr (.inl ⟨by rw [h]; rfl, rfl⟩)

lemma step_of_rightParen {d : Nat} {t : Token} (h : t.kind = .rightParen) :
    (complete (d + 1)).step t = some (complete d) :=
  step_complete.mpr (.inr ⟨h, d, rfl, rfl⟩)

/-- Parentheses around everything change nothing inside. -/
lemma step_deeper {r r' : Reading} {t : Token} (h : r.step t = some r') (k : Nat) :
    (r.deeper k).step t = some (r'.deeper k) := by
  cases r with
  | wanted d =>
      rcases step_wanted.mp h with ⟨ht, rfl⟩ | ⟨ht, rfl⟩ | ⟨ht, rfl⟩
      · exact step_wanted.mpr (.inl ⟨ht, by simp only [deeper]; congr 1; omega⟩)
      · exact step_wanted.mpr (.inr (.inl ⟨ht, rfl⟩))
      · exact step_wanted.mpr (.inr (.inr ⟨ht, rfl⟩))
  | complete d =>
      rcases step_complete.mp h with ⟨ht, rfl⟩ | ⟨ht, n, rfl, rfl⟩
      · exact step_complete.mpr (.inl ⟨ht, rfl⟩)
      · exact step_complete.mpr (.inr ⟨ht, n + k, by omega, rfl⟩)

lemma run_deeper {r r' : Reading} {ts : List Token} (h : r.run ts = some r') (k : Nat) :
    (r.deeper k).run ts = some (r'.deeper k) := by
  induction ts generalizing r with
  | nil =>
      rw [run_nil, Option.some.injEq] at h
      rw [run_nil, h]
  | cons t ts ih =>
      rw [run_cons, Option.bind_eq_some_iff] at h
      obtain ⟨s, hs, h⟩ := h
      rw [run_cons, step_deeper hs k, Option.bind_some, ih h]

/-- A part that was read in the middle was read. -/
lemma run_append_eq_some {r r' : Reading} {ts us : List Token} :
    r.run (ts ++ us) = some r' ↔ ∃ s, r.run ts = some s ∧ s.run us = some r' := by
  rw [run_append, Option.bind_eq_some_iff]

/-- What cannot be read is not read with more behind it either. -/
lemma run_stuck {r s : Reading} {front : List Token} {t : Token} (hs : r.run front = some s)
    (ht : s.step t = none) (back : List Token) : r.run (front ++ t :: back) = none := by
  rw [run_append, hs, Option.bind_some, run_cons, ht, Option.bind_none]

/-- **Reading stops at one token** only. -/
lemma stuck_unique {r s s' : Reading} {front front' back back' : List Token} {t t' : Token}
    (hs : r.run front = some s) (ht : s.step t = none) (hs' : r.run front' = some s')
    (ht' : s'.step t' = none) (heq : front ++ t :: back = front' ++ t' :: back') : t = t' := by
  rcases List.append_eq_append_iff.mp heq with ⟨mid, rfl, hmid⟩ | ⟨mid, rfl, hmid⟩
  · cases mid with
    | nil => exact (List.cons.inj hmid).1
    | cons u mid =>
        obtain ⟨rfl, -⟩ := List.cons.inj hmid
        rw [run_stuck hs ht] at hs'
        cases hs'
  · cases mid with
    | nil => exact (List.cons.inj hmid).1.symm
    | cons u mid =>
        obtain ⟨rfl, -⟩ := List.cons.inj hmid
        rw [run_stuck hs' ht'] at hs
        cases hs

/-- **The matching parenthesis**: where reading leaves a pair of parentheses, the
text inside of the pair was one operand. -/
lemma run_leaves {r : Reading} {ts : List Token}
    (h : (r.deeper 1).run ts = some (complete 0)) :
    ∃ inner closing back, ts = inner ++ closing :: back ∧ r.run inner = some (complete 0) ∧
      closing.kind = .rightParen ∧ (complete 0).run back = some (complete 0) := by
  induction ts generalizing r with
  | nil => cases r <;> simp [deeper] at h
  | cons t ts ih =>
      rw [run_cons, Option.bind_eq_some_iff] at h
      obtain ⟨s, hs, h⟩ := h
      -- the token closes the pair, or it is read as if the pair were not there
      have hcases : (r = complete 0 ∧ t.kind = .rightParen ∧ s = complete 0) ∨
          ∃ r', r.step t = some r' ∧ s = r'.deeper 1 := by
        cases r with
        | wanted d =>
            rcases step_wanted.mp hs with ⟨ht, rfl⟩ | ⟨ht, rfl⟩ | ⟨ht, rfl⟩
            · exact .inr ⟨wanted (d + 1), step_wanted.mpr (.inl ⟨ht, rfl⟩), rfl⟩
            · exact .inr ⟨wanted d, step_wanted.mpr (.inr (.inl ⟨ht, rfl⟩)), rfl⟩
            · exact .inr ⟨complete d, step_wanted.mpr (.inr (.inr ⟨ht, rfl⟩)), rfl⟩
        | complete d =>
            rcases step_complete.mp hs with ⟨ht, rfl⟩ | ⟨ht, n, hn, rfl⟩
            · exact .inr ⟨wanted d, step_complete.mpr (.inl ⟨ht, rfl⟩), rfl⟩
            · obtain rfl : d = n := by omega
              cases d with
              | zero => exact .inl ⟨rfl, ht, rfl⟩
              | succ d => exact .inr ⟨complete d, step_complete.mpr (.inr ⟨ht, d, rfl, rfl⟩), rfl⟩
      rcases hcases with ⟨rfl, ht, rfl⟩ | ⟨r', hr', rfl⟩
      · exact ⟨[], t, ts, rfl, rfl, ht, h⟩
      · obtain ⟨inner, closing, back, rfl, hinner, hclosing, hback⟩ := ih h
        exact ⟨t :: inner, closing, back, rfl, by rw [run_cons, hr', Option.bind_some, hinner],
          hclosing, hback⟩

end Reading

/-! ### A phrase is read as one operand -/

open Reading

/-- **Reading a phrase** completes one operand and leaves the open parentheses as they
were. -/
lemma Derives.run {p : Phrase} {ts : List Token} {opens : List Nat} {e : Expr}
    (h : Derives p ts opens e) (d : Nat) : (wanted d).run ts = some (complete d) := by
  induction h generalizing d with
  | literal hv => rw [run_cons, step_of_value hv, Option.bind_some, run_nil]
  | group ho _ hc ih =>
      rw [run_cons, step_of_leftParen ho, Option.bind_some, run_append, ih, Option.bind_some,
        run_cons, step_of_rightParen hc, Option.bind_some, run_nil]
  | primary _ ih | operand _ ih => exact ih d
  | prefixed ht _ ih => rw [run_cons, step_of_unary ht, Option.bind_some, ih]
  | joined _ ht _ _ ihl ihr =>
      rw [run_append, ihl, Option.bind_some, run_cons, step_of_binary ht, Option.bind_some, ihr]

end Condition
