/-
The texts of the lexical rules, said without scanning.

* `QuotedBody`, `Pattern.Matches`: the texts between two quotes, and the texts of a
  pattern;
* `Pattern.matches_reach`, `Pattern.Matches.length_le_reach`: the reach of a pattern is
  the length of the longest text of it in front;
* `TokenKind.Spells`: the spellings of a kind;
* `Rule.begins_of_matches`: how the text of a rule begins, which is never with a
  character that is skipped (`Pattern.not_isSkipped_of_begins`);
* `Rule.kind_eq`: the rules that match one text are of one kind.
-/
import Condition.Token.Scan
import Mathlib.Data.List.TakeWhile
import Mathlib.Tactic.Lemma

namespace Condition

/-! ### Patterns -/

/-- The texts that may stand between two quotes: no quote in them is bare, and a
backslash takes a character along, which is not a line feed. -/
inductive QuotedBody : List Char → Prop where
  | nil : QuotedBody []
  | plain {c : Char} {cs : List Char} (hquote : c ≠ '"') (hslash : c ≠ '\\')
      (h : QuotedBody cs) : QuotedBody (c :: cs)
  | escaped {c : Char} {cs : List Char} (hfeed : c ≠ '\n') (h : QuotedBody cs) :
      QuotedBody ('\\' :: c :: cs)

/-- One digit or more. -/
def Digits (ds : List Char) : Prop := ds ≠ [] ∧ ∀ c ∈ ds, c.isDigit = true

/-- The texts of a pattern. -/
inductive Pattern.Matches : Pattern → List Char → Prop where
  | spelling (text : List Char) : Matches (.spelling text) text
  | whole {ds : List Char} (h : Digits ds) : Matches .number ds
  | decimal {ds fs : List Char} (h : Digits ds) (hf : Digits fs) :
      Matches .number (ds ++ '.' :: fs)
  | quoted {body : List Char} (h : QuotedBody body) : Matches .quoted ('"' :: (body ++ ['"']))

namespace Pattern

lemma closing?_quote (cs : List Char) : closing? ('"' :: cs) = some 1 := by
  rw [closing?.eq_def]
  exact if_pos rfl

lemma closing?_plain {c : Char} (hquote : c ≠ '"') (hslash : c ≠ '\\') (cs : List Char) :
    closing? (c :: cs) = (closing? cs).map (· + 1) := by
  rw [closing?.eq_def]
  simp only [if_neg hquote, if_neg hslash]

lemma closing?_escaped {c : Char} (hfeed : c ≠ '\n') (cs : List Char) :
    closing? ('\\' :: c :: cs) = (closing? cs).map (· + 2) := by
  have hquote : '\\' ≠ '"' := by decide
  rw [closing?.eq_def]
  simp only [if_neg hquote, if_neg hfeed, if_true]

/-- The closing quote is found behind the body. -/
lemma closing?_append {body : List Char} (h : QuotedBody body) (rest : List Char) :
    closing? (body ++ '"' :: rest) = some (body.length + 1) := by
  induction h with
  | nil => exact closing?_quote rest
  | plain hquote hslash _ ih =>
      rw [List.cons_append, closing?_plain hquote hslash, ih]
      rfl
  | escaped hfeed _ ih =>
      rw [List.cons_append, List.cons_append, closing?_escaped hfeed, ih]
      rfl

/-- A body stands before the closing quote. -/
lemma exists_body_of_closing? {cs : List Char} {n : Nat} (h : closing? cs = some n) :
    ∃ body rest, QuotedBody body ∧ cs = body ++ '"' :: rest ∧ n = body.length + 1 := by
  fun_induction closing? cs generalizing n with
  | case1 => simp at h
  | case2 cs =>
      obtain rfl := Option.some.inj h
      exact ⟨[], cs, .nil, rfl, rfl⟩
  | case3 => simp at h
  | case4 => simp at h
  | case5 d ds hfeed _ ih =>
      obtain ⟨k, hk, rfl⟩ := Option.map_eq_some_iff.mp h
      obtain ⟨body, rest, hbody, rfl, rfl⟩ := ih hk
      exact ⟨'\\' :: d :: body, rest, .escaped hfeed hbody, rfl, rfl⟩
  | case6 c cs hquote hslash ih =>
      obtain ⟨k, hk, rfl⟩ := Option.map_eq_some_iff.mp h
      obtain ⟨body, rest, hbody, rfl, rfl⟩ := ih hk
      exact ⟨c :: body, rest, .plain hquote hslash hbody, rfl, rfl⟩

end Pattern

/-- The digits in front of digits and something else. -/
lemma Digits.takeWhile_append {ds : List Char} (h : Digits ds) (rest : List Char) :
    (ds ++ rest).takeWhile Char.isDigit = ds ++ rest.takeWhile Char.isDigit :=
  List.takeWhile_append_of_pos h.2

/-- What follows the digits in front of digits and something else. -/
lemma Digits.dropWhile_append {ds : List Char} (h : Digits ds) (rest : List Char) :
    (ds ++ rest).dropWhile Char.isDigit = rest.dropWhile Char.isDigit :=
  List.dropWhile_append_of_pos h.2

/-- Leading digits, if there are any. -/
lemma digits_takeWhile {cs : List Char} (h : (cs.takeWhile Char.isDigit).length ≠ 0) :
    Digits (cs.takeWhile Char.isDigit) :=
  ⟨fun hnil => h (by rw [hnil]; rfl), fun _ hc => List.mem_takeWhile_imp hc⟩

lemma Digits.length_pos {ds : List Char} (h : Digits ds) : 0 < ds.length :=
  List.length_pos_iff.mpr h.1

namespace Pattern

/-- A number has all of the leading digits. -/
lemma length_takeWhile_le_numberReach (cs : List Char) :
    (cs.takeWhile Char.isDigit).length ≤ numberReach cs := by
  unfold numberReach
  by_cases h : (cs.takeWhile Char.isDigit).length = 0
  · omega
  · simp only [if_neg h]
    split
    · split <;> omega
    · exact Nat.le_refl _

/-- What a number reaches is a number. -/
lemma matches_numberReach {cs : List Char} (h : 0 < numberReach cs) :
    ∃ w rest, cs = w ++ rest ∧ w.length = numberReach cs ∧ number.Matches w := by
  have hcs := List.takeWhile_append_dropWhile (p := Char.isDigit) (l := cs)
  unfold numberReach at h ⊢
  by_cases hw : (cs.takeWhile Char.isDigit).length = 0
  · simp [hw] at h
  · have hwhole := digits_takeWhile hw
    simp only [if_neg hw]
    split
    · rename_i rest hrest
      split
      · exact ⟨_, _, hcs.symm, rfl, .whole hwhole⟩
      · rename_i hf
        refine ⟨_, rest.dropWhile Char.isDigit, ?_, ?_, .decimal hwhole (digits_takeWhile hf)⟩
        · rw [List.append_assoc, List.cons_append, List.takeWhile_append_dropWhile, ← hrest, hcs]
        · simp only [List.length_append, List.length_cons]
          omega
    · exact ⟨_, _, hcs.symm, rfl, .whole hwhole⟩

/-- **The reach of a pattern** is the length of a text of it in front. -/
theorem matches_reach {p : Pattern} {cs : List Char} (h : 0 < p.reach cs) :
    ∃ w rest, cs = w ++ rest ∧ w.length = p.reach cs ∧ p.Matches w := by
  cases p with
  | spelling text =>
      by_cases htext : text.isPrefixOf cs
      · obtain ⟨rest, hrest⟩ := List.isPrefixOf_iff_prefix.mp htext
        exact ⟨text, rest, hrest.symm, by rw [reach, if_pos htext], .spelling text⟩
      · rw [reach, if_neg htext] at h
        exact absurd h (Nat.lt_irrefl 0)
  | number => exact matches_numberReach h
  | quoted =>
      unfold reach at h ⊢
      split at h
      · simp_all
      · simp_all
      · rename_i cs _
        cases hn : closing? cs with
        | none => simp [hn] at h
        | some n =>
            obtain ⟨body, rest, hbody, rfl, rfl⟩ := exists_body_of_closing? hn
            exact ⟨_, rest, by simp, by simp, .quoted hbody⟩
      · exact absurd h (Nat.lt_irrefl 0)

/-- No text of the pattern in front is longer than its reach. -/
theorem Matches.length_le_reach {p : Pattern} {w : List Char} (h : p.Matches w)
    (rest : List Char) : w.length ≤ p.reach (w ++ rest) := by
  cases h with
  | spelling =>
      have hw : w.isPrefixOf (w ++ rest) :=
        List.isPrefixOf_iff_prefix.mpr (List.prefix_append w rest)
      rw [reach, if_pos hw]
  | whole h =>
      refine Nat.le_trans ?_ (length_takeWhile_le_numberReach (w ++ rest))
      rw [h.takeWhile_append, List.length_append]
      exact Nat.le_add_right _ _
  | @decimal ds fs h hf =>
      have hpoint : Char.isDigit '.' = false := by decide
      have htake : ((ds ++ '.' :: fs) ++ rest).takeWhile Char.isDigit = ds := by
        rw [List.append_assoc, h.takeWhile_append, List.cons_append,
          List.takeWhile_cons_of_neg (by simp [hpoint]), List.append_nil]
      have hdrop : ((ds ++ '.' :: fs) ++ rest).dropWhile Char.isDigit = '.' :: (fs ++ rest) := by
        rw [List.append_assoc, h.dropWhile_append, List.cons_append,
          List.dropWhile_cons_of_neg (by simp [hpoint])]
      have hpos := h.length_pos
      have hfpos := hf.length_pos
      have hlen : fs.length ≤ ((fs ++ rest).takeWhile Char.isDigit).length := by
        rw [hf.takeWhile_append, List.length_append]
        exact Nat.le_add_right _ _
      show _ ≤ numberReach _
      unfold numberReach
      simp only [htake, hdrop, List.length_append, List.length_cons]
      rw [if_neg (by omega), if_neg (by omega)]
      omega
  | @quoted body h =>
      have happ : ('"' :: (body ++ ['"'])) ++ rest = '"' :: (body ++ '"' :: rest) := by simp
      rw [happ, reach, closing?_append h]
      simp

end Pattern

/-! ### The rules -/

/-- The text is one of the spellings of the kind. -/
def TokenKind.Spells (kind : TokenKind) (s : String) : Prop :=
  ∃ rule ∈ rules, rule.kind = kind ∧ rule.pattern = .spelling s.toList

/-- What a text of the pattern may begin with. The spellings of the language begin
with no digit, with no quote and with nothing that is skipped. -/
def Pattern.begins : Pattern → Char → Bool
  | .spelling _, c => !c.isDigit && c != '"' && !isSkipped c
  | .number, c => c.isDigit
  | .quoted, c => c == '"'

/-- Whether the text begins as its rule says, if the rule is for one spelling. -/
def Rule.wellSpelled (rule : Rule) : Bool :=
  match rule.pattern with
  | .spelling text => text.head?.any rule.pattern.begins
  | _ => true

lemma wellSpelled_of_mem : ∀ rule ∈ rules, rule.wellSpelled = true := by decide

/-- Rules of one pattern are of one kind. -/
lemma kind_eq_of_pattern_eq :
    ∀ rule ∈ rules, ∀ rule' ∈ rules, rule.pattern = rule'.pattern → rule.kind = rule'.kind := by
  decide

lemma Digits.exists_cons {ds : List Char} (h : Digits ds) :
    ∃ c cs, ds = c :: cs ∧ c.isDigit = true := by
  obtain ⟨c, cs, rfl⟩ := List.exists_cons_of_ne_nil h.1
  exact ⟨c, cs, rfl, h.2 c List.mem_cons_self⟩

/-- How the text of a rule begins. -/
lemma Rule.begins_of_matches {rule : Rule} {w : List Char} (hrule : rule ∈ rules)
    (h : rule.pattern.Matches w) : ∃ c cs, w = c :: cs ∧ rule.pattern.begins c = true := by
  have hspelled := wellSpelled_of_mem rule hrule
  unfold wellSpelled at hspelled
  generalize rule.pattern = p at h hspelled
  cases h with
  | spelling =>
      cases w with
      | nil => simp at hspelled
      | cons c cs => exact ⟨c, cs, rfl, by simpa using hspelled⟩
  | whole hd => exact hd.exists_cons
  | decimal hd _ =>
      obtain ⟨c, cs, rfl, hc⟩ := hd.exists_cons
      exact ⟨c, _, rfl, hc⟩
  | quoted => exact ⟨_, _, rfl, rfl⟩

/-- No text of a pattern begins with a character that is skipped. -/
lemma Pattern.not_isSkipped_of_begins {p : Pattern} {c : Char} (h : p.begins c = true) :
    isSkipped c = false := by
  cases p with
  | spelling text => simp_all [begins]
  | number =>
      rw [← Bool.not_eq_true]
      intro hskip
      simp only [isSkipped, Bool.or_eq_true, beq_iff_eq] at hskip
      rcases hskip with ((((rfl | rfl) | rfl) | rfl) | rfl) | rfl <;> cases h
  | quoted =>
      obtain rfl : c = '"' := by simpa [begins] using h
      rfl

/-- Two rules that match one text have one pattern: how it begins tells numbers and
quoted texts from each other and from the spellings. -/
lemma Rule.pattern_eq {rule rule' : Rule} {w : List Char} (hrule : rule ∈ rules)
    (hrule' : rule' ∈ rules) (h : rule.pattern.Matches w) (h' : rule'.pattern.Matches w) :
    rule.pattern = rule'.pattern := by
  obtain ⟨c, cs, rfl, hc⟩ := begins_of_matches hrule h
  obtain ⟨c', cs', hw, hc'⟩ := begins_of_matches hrule' h'
  obtain ⟨rfl, rfl⟩ := List.cons.inj hw
  have hquote : Char.isDigit '"' = false := rfl
  generalize rule.pattern = p at h hc ⊢
  generalize rule'.pattern = p' at h' hc' ⊢
  cases p <;> cases p' <;> simp_all [Pattern.begins]
  obtain ⟨⟩ := h
  obtain ⟨⟩ := h'
  rfl

/-- **One text, one kind**: the rules that match a text are of the same kind. -/
theorem Rule.kind_eq {rule rule' : Rule} {w : List Char} (hrule : rule ∈ rules)
    (hrule' : rule' ∈ rules) (h : rule.pattern.Matches w) (h' : rule'.pattern.Matches w) :
    rule.kind = rule'.kind :=
  kind_eq_of_pattern_eq rule hrule rule' hrule' (Rule.pattern_eq hrule hrule' h h')

end Condition
