/-
Where an open parenthesis is reported.

* `Reading.run_depth`: reading counts the parentheses that are open;
* `Blames.of_unclosed`: an open parenthesis is reported where the tokens leave some open;
* `parse_unclosed_located`: which token that is, and when the report is at it. The report is
  looked for in the text, where parentheses inside of strings count.
-/
import Condition.Proofs.Parse.Subtree
import Condition.Proofs.Token.Paren

namespace Condition

/-! ### The parentheses that are open -/

namespace Reading

lemma step_depth {r r' : Reading} {t : Token} (h : r.step t = some r') :
    (r'.depth : Int) = r.depth + Paren.value t.paren? := by
  cases r with
  | wanted d =>
      rcases step_wanted.mp h with ⟨ht, rfl⟩ | ⟨ht, rfl⟩ | ⟨ht, rfl⟩
      · simp [depth, Token.paren?, ht, TokenKind.paren?, Paren.value]
      · cases hk : t.kind <;>
          simp_all [depth, Token.paren?, TokenKind.unary?, TokenKind.paren?, Paren.value]
      · cases hk : t.kind <;>
          simp_all [depth, Token.paren?, Token.value?, TokenKind.paren?, Paren.value]
  | complete d =>
      rcases step_complete.mp h with ⟨ht, rfl⟩ | ⟨ht, n, rfl, rfl⟩
      · cases hk : t.kind <;>
          simp_all [depth, Token.paren?, TokenKind.binary?, TokenKind.paren?, Paren.value]
      · simp only [depth, Token.paren?, ht, TokenKind.paren?, Paren.value]
        omega

/-- **Reading counts parentheses**: as many more are open as the tokens open more than they
close. -/
lemma run_depth {r r' : Reading} {ts : List Token} (h : r.run ts = some r') :
    (r'.depth : Int) = r.depth + excess Token.paren? ts := by
  induction ts generalizing r with
  | nil =>
      obtain rfl := Option.some.inj h
      rw [excess_nil, Int.add_zero]
  | cons t ts ih =>
      rw [run_cons, Option.bind_eq_some_iff] at h
      obtain ⟨s, hs, hrest⟩ := h
      rw [ih hrest, step_depth hs, excess_cons, Int.add_assoc]

end Reading

/-- Only the report of an open parenthesis has its key. -/
lemma Fault.eq_unclosed {f : Fault} (h : f.diagnostic.message.key = "expressions-unclosed-paren") :
    ∃ offset, f = .unclosed offset := by
  cases f with
  | unclosed offset => exact ⟨offset, rfl⟩
  | _ => exact absurd h (by simp [Fault.diagnostic, Fault.plainMessage, Message.key])

/-- An open parenthesis is looked for in the text if the tokens leave one open. -/
lemma Blames.of_unclosed {source : List Char} {ts : List Token} {offset : Nat}
    (h : Blames source (.wanted 0) [] ts (.unclosed offset)) :
    offset = Text.unclosedParen source ∧ 0 < excess Token.paren? ts := by
  generalize hf : Fault.unclosed offset = f at h
  cases h with
  | unexpected | tooDeep => cases hf
  | missing =>
      rw [Cursor.missing] at hf
      split at hf <;> cases hf
  | unclosed hr =>
      have hdepth := Reading.run_depth hr
      simp only [Reading.depth] at hdepth
      exact ⟨Fault.unclosed.inj hf, by omega⟩

/-- **An open parenthesis is reported** where the search in the text ends, and there is a last
parenthesis among the tokens that nothing closes. The report is at it if the text behind it is
balanced, with the parentheses in its strings, and also if it stands at the very start and the
text leaves none open. It always is if the strings behind it have no parentheses. -/
theorem parse_unclosed_located (source : String) (f : Fault)
    (h : parse source = .error (.fault f))
    (hkey : f.diagnostic.message.key = "expressions-unclosed-paren") :
    ∃ ts front t back before rest, tokens source = .ok ts ∧ ts = front ++ t :: back ∧
      LastOpen Token.paren? t back ∧ source.toList = before ++ '(' :: rest ∧
      t.span = ⟨Text.width before, Text.width before + 1⟩ ∧
      (f.diagnostic.span = t.span ↔
        Balanced Text.paren? rest ∨ before = [] ∧ Settled Text.paren? ('(' :: rest)) ∧
      ((∀ u ∈ back, u.kind = .stringLiteral → ∀ c ∈ u.lexeme.toList, c ≠ '(' ∧ c ≠ ')') →
        f.diagnostic.span = t.span) := by
  obtain ⟨offset, rfl⟩ := Fault.eq_unclosed hkey
  rcases parse_eq_error h with ⟨_, _, _, -, hf⟩ | ⟨ts, f, -, htiled, -, hblames, hf⟩
  · cases hf
  obtain rfl := Failure.fault.inj hf
  obtain ⟨rfl, hopen⟩ := hblames.of_unclosed
  -- the last of the parentheses that are open, and the text around it
  rcases exists_last_opening Token.paren? ts with hsettled | ⟨front, t, back, rfl, ht, hback⟩
  · exact absurd (hsettled ts (List.suffix_refl ts)) (Int.not_le.mpr hopen)
  obtain ⟨before, rest, hsource, hoffset, hmatch, -, hrest⟩ := htiled.split
  have hlexeme : t.lexeme.toList = ['('] := hmatch.eq_paren ht
  rw [hlexeme, List.singleton_append] at hsource
  rw [Nat.zero_add] at hoffset
  have hspan : t.span = ⟨Text.width before, Text.width before + 1⟩ := by
    rw [Token.span, hlexeme, hoffset]
    rfl
  have hlocated : (Fault.unclosed (Text.unclosedParen source.toList)).diagnostic.span = t.span ↔
      Balanced Text.paren? rest ∨ before = [] ∧ Settled Text.paren? ('(' :: rest) := by
    rw [hspan, hsource, ← Text.unclosedParen_eq_width_iff]
    constructor
    · intro heq
      exact congrArg Span.start heq
    · intro heq
      rw [heq]
      rfl
  refine ⟨_, front, t, back, before, rest, tokens_eq_ok_iff.mpr htiled, rfl,
    lastOpen_of_balanced ht hback, hsource, hspan, hlocated, fun hstrings => ?_⟩
  refine hlocated.mpr (.inl ((hrest.balanced_iff fun u hu hkind => ?_).mpr hback))
  refine List.filterMap_eq_nil_iff.mpr fun c hc => ?_
  exact Text.paren?_eq_none.mpr (hstrings u hu hkind c hc)

/-- The theorem at `(true == "a"`, where the string has no parentheses. -/
theorem parse_unclosed_located_equal :
    parse "(true == \"a\"" = .error (.fault (.unclosed 0)) ∧
      (Fault.unclosed 0).diagnostic.message.key = "expressions-unclosed-paren" ∧
      ∃ ts front t back, tokens "(true == \"a\"" = .ok ts ∧ ts = front ++ t :: back ∧
        LastOpen Token.paren? t back ∧ (Fault.unclosed 0).diagnostic.span = t.span := by
  have htokens : tokens "(true == \"a\"" = .ok [⟨"(", .leftParen, 0⟩, ⟨"true", .trueLiteral, 1⟩,
      ⟨"==", .equals, 6⟩, ⟨"\"a\"", .stringLiteral, 9⟩] := by decide +kernel
  have hsearch : Text.unclosedParen "(true == \"a\"".toList = 0 := by decide +kernel
  have hparse : parse "(true == \"a\"" = .error (.fault (.unclosed 0)) :=
    (parse_eq_fault_iff htokens (List.cons_ne_nil _ _) (by decide)).mpr
      ⟨hsearch ▸ .unclosed (d := 0) rfl, rfl⟩
  refine ⟨hparse, rfl, ?_⟩
  obtain ⟨ts, front, t, back, before, rest, hts, heq, hlast, -, -, -, hspan⟩ :=
    parse_unclosed_located _ _ hparse rfl
  refine ⟨ts, front, t, back, hts, heq, hlast, hspan fun u hu => ?_⟩
  have hu : u ∈ ts := heq ▸ List.mem_append_right _ (List.mem_cons_of_mem _ hu)
  have hstrings : ∀ u ∈ ts, u.kind = .stringLiteral →
      ∀ c ∈ u.lexeme.toList, c ≠ '(' ∧ c ≠ ')' := by
    rw [Except.ok.inj (hts.symm.trans htokens)]
    simp
  exact hstrings u hu

/-- **A parenthesis in a string** is taken for one of the expression: in ` (")"` the report is
at the blank, and there is no parenthesis. -/
theorem parse_unclosed_in_string :
    ∃ f ts, parse " (\")\"" = .error (.fault f) ∧
      f.diagnostic.message.key = "expressions-unclosed-paren" ∧ tokens " (\")\"" = .ok ts ∧
      ∀ t ∈ ts, t.kind = .leftParen → f.diagnostic.span ≠ t.span := by
  have htokens : tokens " (\")\"" = .ok [⟨"(", .leftParen, 1⟩, ⟨"\")\"", .stringLiteral, 2⟩] := by
    decide +kernel
  have hsearch : Text.unclosedParen " (\")\"".toList = 0 := by decide +kernel
  have hparse : parse " (\")\"" = .error (.fault (.unclosed 0)) :=
    (parse_eq_fault_iff htokens (List.cons_ne_nil _ _) (by decide)).mpr
      ⟨hsearch ▸ .unclosed (d := 0) rfl, rfl⟩
  exact ⟨_, _, hparse, rfl, htokens, by decide⟩

end Condition
