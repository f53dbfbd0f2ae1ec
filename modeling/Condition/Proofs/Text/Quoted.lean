/-
Quoted texts can be read back.

* `Text.toDigits_induction`: induction on the digits of a number;
  `Text.hexValue_toDigits`: hexadecimal digits have the value of the number they are made of;
* `Text.unescape?_escape`: the character that an escape stands for is read off the escape,
  whatever follows it;
* `Text.quote_append_cancel`: so a quoted text at the front of another text tells which text
  is quoted there, and where it ends.
-/
import Condition.Proofs.Number.Numeral
import Condition.Text.Quoted

namespace Condition

namespace Text

/-! ### Hexadecimal numbers -/

/-- The value of a hexadecimal digit in small letters. -/
def hexDigit (c : Char) : Nat :=
  if c.isDigit then c.toNat - '0'.toNat else c.toNat - 'a'.toNat + 10

/-- The number that hexadecimal digits stand for. -/
def hexValue (ds : List Char) : Nat := ds.foldl (fun n c => n * 16 + hexDigit c) 0

lemma hexDigit_digitChar : ∀ d < 16, hexDigit d.digitChar = d := by decide

/-- **Digits of a number.** What holds of one digit, and of digits with one more if it holds of
them, holds of the digits of every number. -/
lemma toDigits_induction {b : Nat} (hb : 1 < b) {P : Nat → List Char → Prop}
    (one : ∀ d < b, P d [d.digitChar])
    (more : ∀ n ds, ∀ d < b, P n ds → P (b * n + d) (ds ++ [d.digitChar])) (n : Nat) :
    P n (Nat.toDigits b n) := by
  induction n using Nat.strong_induction_on with
  | _ n ih =>
    rcases Nat.lt_or_ge n b with hn | hn
    · rw [Nat.toDigits_of_lt_base hn]
      exact one n hn
    · have hleading : P (n / b) (Nat.toDigits b (n / b)) := ih _ (Nat.div_lt_self (by omega) hb)
      have hlast := more _ _ _ (Nat.mod_lt n (by omega)) hleading
      rwa [Nat.div_add_mod, ← Nat.toDigits_of_base_le hb hn] at hlast

/-- **Hexadecimal digits** have the value of the number they are made of. -/
lemma hexValue_toDigits (n : Nat) : hexValue (Nat.toDigits 16 n) = n := by
  refine toDigits_induction (by decide) (P := fun n ds => hexValue ds = n) ?_ ?_ n
  · intro d hd
    rw [hexValue, List.foldl_cons, List.foldl_nil, hexDigit_digitChar d hd, Nat.zero_mul,
      Nat.zero_add]
  · intro n ds d hd hn
    rw [hexValue] at hn ⊢
    rw [List.foldl_append, List.foldl_cons, List.foldl_nil, hn, hexDigit_digitChar d hd,
      Nat.mul_comm]

/-- The brace that ends an escape by number is no hexadecimal digit. -/
lemma ne_brace_of_mem_toDigits (n : Nat) : ∀ c ∈ Nat.toDigits 16 n, (c != '\x7d') = true := by
  have hdigits : ∀ d < 16, (d.digitChar != '\x7d') = true := by decide
  refine toDigits_induction (by decide) (P := fun _ ds => ∀ c ∈ ds, (c != '\x7d') = true) ?_ ?_ n
  · intro d hd c hc
    rw [List.mem_singleton.mp hc]
    exact hdigits d hd
  · intro _ ds d hd hds c hc
    rcases List.mem_append.mp hc with hc | hc
    · exact hds c hc
    · rw [List.mem_singleton.mp hc]
      exact hdigits d hd

/-! ### Escapes -/

/-- Reads the form of one character: the character that it stands for, and what follows. -/
def unescape? : List Char → Option (Char × List Char)
  | '\\' :: '0' :: rest => some ('\x00', rest)
  | '\\' :: 't' :: rest => some ('\t', rest)
  | '\\' :: 'r' :: rest => some ('\r', rest)
  | '\\' :: 'n' :: rest => some ('\n', rest)
  | '\\' :: 'u' :: '\x7b' :: rest =>
    some (Char.ofNat (hexValue (rest.takeWhile (· != '\x7d'))),
      (rest.dropWhile (· != '\x7d')).drop 1)
  | '\\' :: c :: rest => some (c, rest)
  | c :: rest => some (c, rest)
  | [] => none

/-- An escape by number stands for the character with that number. -/
lemma unescape?_numbered (c : Char) (rest : List Char) :
    unescape? (numbered c ++ rest) = some (c, rest) := by
  have hends : EndsClass (· != '\x7d') ('\x7d' :: rest) := by rintro _ ⟨⟩; rfl
  have hdigits := ne_brace_of_mem_toDigits c.toNat
  have hnumbered : numbered c ++ rest =
      '\\' :: 'u' :: '\x7b' :: (Nat.toDigits 16 c.toNat ++ '\x7d' :: rest) := by
    simp [numbered]
  rw [hnumbered, unescape?, hends.takeWhile_append hdigits, hends.dropWhile_append hdigits,
    hexValue_toDigits, Char.ofNat_toNat]
  rfl

/-- A character other than the backslash stands for itself. -/
lemma unescape?_cons {c : Char} (hc : c ≠ '\\') (rest : List Char) :
    unescape? (c :: rest) = some (c, rest) := by
  unfold unescape?
  split <;> simp_all

/-- **Every character is read off its escape**, whatever follows the escape. -/
theorem unescape?_escape (c : Char) (rest : List Char) :
    unescape? (escape c ++ rest) = some (c, rest) := by
  unfold escape
  split_ifs with hnull htab hreturn hfeed hquote hbackslash hhidden
  · rw [hnull]
    rfl
  · rw [htab]
    rfl
  · rw [hreturn]
    rfl
  · rw [hfeed]
    rfl
  · rw [hquote]
    rfl
  · rw [hbackslash]
    rfl
  · exact unescape?_numbered c rest
  · exact unescape?_cons hbackslash rest

/-- Escapes in front of a text are told from each other. -/
lemma escape_append_cancel {c d : Char} {rest rest' : List Char}
    (h : escape c ++ rest = escape d ++ rest') : c = d ∧ rest = rest' := by
  have hread := congrArg unescape? h
  rw [unescape?_escape, unescape?_escape] at hread
  exact Prod.mk.inj (Option.some.inj hread)

/-- No escape begins with a quote. -/
lemma escape_append_ne_quote (c : Char) (rest cs : List Char) : escape c ++ rest ≠ '"' :: cs := by
  intro h
  have hread := congrArg unescape? h
  rw [unescape?_escape, unescape?_cons (by decide)] at hread
  obtain rfl : c = '"' := congrArg Prod.fst (Option.some.inj hread)
  cases h

/-! ### Quoted texts -/

/-- Characters inside quotes are told from each other, and from the quote behind them. -/
lemma flatMap_escape_cancel {rest rest' : List Char} (cs ds : List Char)
    (h : cs.flatMap escape ++ '"' :: rest = ds.flatMap escape ++ '"' :: rest') :
    cs = ds ∧ rest = rest' := by
  induction cs generalizing ds with
  | nil =>
      cases ds with
      | nil => exact ⟨rfl, (List.cons.inj h).2⟩
      | cons d ds =>
          rw [List.flatMap_cons, List.append_assoc] at h
          exact absurd h.symm (escape_append_ne_quote d _ _)
  | cons c cs ih =>
      cases ds with
      | nil =>
          rw [List.flatMap_cons, List.append_assoc] at h
          exact absurd h (escape_append_ne_quote c _ _)
      | cons d ds =>
          rw [List.flatMap_cons, List.flatMap_cons, List.append_assoc, List.append_assoc] at h
          obtain ⟨rfl, hbehind⟩ := escape_append_cancel h
          obtain ⟨rfl, hrest⟩ := ih ds hbehind
          exact ⟨rfl, hrest⟩

/-- The characters of a quoted text. -/
lemma toList_quote (s : String) : (quote s).toList = '"' :: s.toList.flatMap escape ++ ['"'] := by
  rw [quote, String.toList_ofList]

/-- **A quoted text in front** tells which text is quoted, and where it ends. -/
theorem quote_append_cancel {s t : String} {rest rest' : List Char}
    (h : (quote s).toList ++ rest = (quote t).toList ++ rest') : s = t ∧ rest = rest' := by
  simp only [toList_quote, List.cons_append, List.append_assoc, List.nil_append] at h
  obtain ⟨hchars, hrest⟩ := flatMap_escape_cancel _ _ (List.cons.inj h).2
  exact ⟨String.toList_inj.mp hchars, hrest⟩

end Text

end Condition
