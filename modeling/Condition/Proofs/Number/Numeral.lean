/-
The texts of numerals, said without reading them.

* `Numeral.Sign`, `Numeral.Mantissa`, `Numeral.Power`: the texts of the parts, each with what
  it stands for;
* `Numeral.Written`: the texts of a numeral; `Numeral.read?_eq_some_iff`: these are the ones
  that are read, and each as what it stands for;
* `IsNumeral`, `IsName`: the texts of numerals, and of the doubles that have names;
  `Binary64.isSome_read?`: these are the texts that stand for a double;
* `Binary64.ofNumeral_ne_nan`: no numeral stands for the NaN.
-/
import Condition.Number.Numeral
import Condition.Proofs.Token.Language

namespace Condition

/-! ### The parts of a numeral -/

namespace Numeral

/-- The texts of a sign: none at all counts as a plus. -/
inductive Sign : Bool → List Char → Prop where
  | absent : Sign false []
  | plus : Sign false ['+']
  | minus : Sign true ['-']

/-- The texts of the digits on both sides of the point: digits, perhaps with a point and more
digits behind them, or a point with digits behind it. -/
inductive Mantissa : List Char → List Char → List Char → Prop where
  | whole {ds : List Char} (h : Digits ds) : Mantissa ds [] ds
  | pointed {ds fs : List Char} (h : Digits ds) (hf : ∀ c ∈ fs, c.isDigit = true) :
      Mantissa ds fs (ds ++ '.' :: fs)
  | fraction {fs : List Char} (h : Digits fs) : Mantissa [] fs ('.' :: fs)

/-- The power of ten that a sign and digits stand for. -/
def powerOf (negative : Bool) (digits : List Char) : Int :=
  if negative then -(digitsValue digits : Int) else digitsValue digits

/-- The texts of a power of ten: nothing, or `e` with a sign and digits. -/
inductive Power : Int → List Char → Prop where
  | absent : Power 0 []
  | marked {c : Char} {negative : Bool} {sign ds : List Char} (hc : c = 'e' ∨ c = 'E')
      (hs : Sign negative sign) (h : Digits ds) :
      Power (powerOf negative ds) (c :: (sign ++ ds))

/-- **The texts of a numeral**: a sign, digits around a point, and a power of ten. -/
inductive Written : Numeral → List Char → Prop where
  | mk {negative : Bool} {whole fraction sign mantissa power : List Char} {exponent : Int}
      (hs : Sign negative sign) (hm : Mantissa whole fraction mantissa)
      (hp : Power exponent power) :
      Written ⟨negative, whole, fraction, exponent⟩ (sign ++ (mantissa ++ power))

end Numeral

/-- The text is that of a numeral. -/
def IsNumeral (cs : List Char) : Prop := ∃ n : Numeral, n.Written cs

/-! ### What the parts begin with -/

/-- The text does not go on with a character of the class. -/
def EndsClass (p : Char → Bool) (cs : List Char) : Prop := ∀ c ∈ cs.head?, p c = false

namespace EndsClass

variable {p : Char → Bool} {ds rest : List Char}

/-- The characters of a class in front are those up to where it ends. -/
lemma takeWhile_append (hrest : EndsClass p rest) (hds : ∀ c ∈ ds, p c = true) :
    (ds ++ rest).takeWhile p = ds := by
  rw [List.takeWhile_append_of_pos hds]
  cases rest with
  | nil => rw [List.takeWhile_nil, List.append_nil]
  | cons c cs =>
      have hc : p c = false := hrest c rfl
      rw [List.takeWhile_cons_of_neg (by simp [hc]), List.append_nil]

lemma dropWhile_append (hrest : EndsClass p rest) (hds : ∀ c ∈ ds, p c = true) :
    (ds ++ rest).dropWhile p = rest := by
  rw [List.dropWhile_append_of_pos hds]
  cases rest with
  | nil => rfl
  | cons c cs =>
      have hc : p c = false := hrest c rfl
      rw [List.dropWhile_cons_of_neg (by simp [hc])]

/-- **The characters of a class in front** are told from what follows where the class ends. -/
lemma append_cancel {es rest' : List Char} (hrest : EndsClass p rest) (hrest' : EndsClass p rest')
    (hds : ∀ c ∈ ds, p c = true) (hes : ∀ c ∈ es, p c = true) (h : ds ++ rest = es ++ rest') :
    ds = es ∧ rest = rest' := by
  have htake := congrArg (List.takeWhile p) h
  rw [hrest.takeWhile_append hds, hrest'.takeWhile_append hes] at htake
  subst htake
  exact ⟨rfl, List.append_cancel_left h⟩

end EndsClass

/-- Where the characters of a class have been taken off, the class ends. -/
lemma endsClass_dropWhile (p : Char → Bool) (cs : List Char) : EndsClass p (cs.dropWhile p) := by
  intro c hc
  have hhead := List.head?_dropWhile_not p cs
  rw [Option.mem_def.mp hc] at hhead
  exact hhead

namespace Numeral

/-- Whether the character is a sign. -/
def isSign (c : Char) : Bool := c == '-' || c == '+'

/-- No digit is a sign. -/
lemma isSign_of_isDigit {c : Char} (h : c.isDigit = true) : isSign c = false := by
  rw [← Bool.not_eq_true]
  intro hc
  simp only [isSign, Bool.or_eq_true, beq_iff_eq] at hc
  rcases hc with rfl | rfl <;> cases h

/-- No sign stands in front of digits. -/
lemma endsClass_isSign_of_digits {ds : List Char} (h : Digits ds) (rest : List Char) :
    EndsClass isSign (ds ++ rest) := by
  obtain ⟨d, ds, rfl, hd⟩ := h.exists_cons
  rintro _ ⟨⟩
  exact isSign_of_isDigit hd

/-- No sign stands in front of a mantissa. -/
lemma Mantissa.endsClass_isSign {whole fraction m : List Char} (h : Mantissa whole fraction m)
    (rest : List Char) : EndsClass isSign (m ++ rest) := by
  cases h with
  | whole h => exact endsClass_isSign_of_digits h rest
  | pointed h =>
      rw [List.append_assoc]
      exact endsClass_isSign_of_digits h _
  | fraction => rintro _ ⟨⟩; rfl

/-- A power of ten begins with nothing but its mark. -/
lemma Power.endsClass {p : Char → Bool} (he : p 'e' = false) (hE : p 'E' = false) {e : Int}
    {x : List Char} (h : Power e x) : EndsClass p x := by
  cases h with
  | absent => rintro _ ⟨⟩
  | marked hc =>
      rintro _ ⟨⟩
      rcases hc with rfl | rfl
      · exact he
      · exact hE

/-! ### Reading the parts -/

/-- The sign in front is taken off. -/
lemma splitSign_append {negative : Bool} {sign rest : List Char} (h : Sign negative sign)
    (hrest : EndsClass isSign rest) : splitSign (sign ++ rest) = (negative, rest) := by
  cases h with
  | plus | minus => rfl
  | absent =>
      rw [List.nil_append]
      unfold splitSign
      split
      · cases hrest '-' rfl
      · cases hrest '+' rfl
      · rfl

/-- What is taken off is a sign. -/
lemma exists_sign {cs rest : List Char} {negative : Bool} (h : splitSign cs = (negative, rest)) :
    ∃ sign, Sign negative sign ∧ cs = sign ++ rest := by
  unfold splitSign at h
  split at h <;> obtain ⟨rfl, rfl⟩ := Prod.mk.inj h
  · exact ⟨['-'], .minus, rfl⟩
  · exact ⟨['+'], .plus, rfl⟩
  · exact ⟨[], .absent, rfl⟩

/-- **The power of ten** is read as what it stands for, and nothing else is. -/
lemma readExponent?_eq_some_iff {x : List Char} {e : Int} :
    readExponent? x = some e ↔ Power e x := by
  constructor
  · intro h
    cases x with
    | nil =>
        obtain rfl := Option.some.inj h
        exact .absent
    | cons c cs =>
        obtain ⟨negative, ds, hsplit⟩ : ∃ negative ds, splitSign cs = (negative, ds) := ⟨_, _, rfl⟩
        obtain ⟨sign, hs, rfl⟩ := exists_sign hsplit
        simp only [readExponent?, hsplit] at h
        split at h
        · rename_i hmarked
          obtain ⟨hc, hne, hall⟩ := hmarked
          obtain rfl := Option.some.inj h
          exact .marked hc hs ⟨hne, List.all_eq_true.mp hall⟩
        · cases h
  · intro h
    cases h with
    | absent => rfl
    | @marked c negative sign ds hc hs h =>
        have hsplit : splitSign (sign ++ ds) = (negative, ds) := by
          have hends := endsClass_isSign_of_digits h []
          rw [List.append_nil] at hends
          exact splitSign_append hs hends
        have hmarked : (c = 'e' ∨ c = 'E') ∧ ds ≠ [] ∧ ds.all Char.isDigit = true :=
          ⟨hc, h.1, List.all_eq_true.mpr h.2⟩
        simp only [readExponent?, hsplit]
        rw [if_pos hmarked, powerOf]

/-- The digits behind a point are taken off with it. -/
lemma splitFraction_point {fs x : List Char} (hfs : ∀ c ∈ fs, c.isDigit = true)
    (hx : EndsClass Char.isDigit x) : splitFraction ('.' :: (fs ++ x)) = (fs, x) := by
  rw [splitFraction, hx.takeWhile_append hfs, hx.dropWhile_append hfs]

/-- Without a point there is no fraction. -/
lemma splitFraction_absent {x : List Char} (hx : EndsClass (· == '.') x) :
    splitFraction x = ([], x) := by
  unfold splitFraction
  split
  · cases hx '.' rfl
  · rfl

/-- What is taken off behind the whole digits is nothing, or a point and digits. -/
lemma splitFraction_cases {tail fraction x : List Char}
    (h : splitFraction tail = (fraction, x)) :
    (fraction = [] ∧ tail = x) ∨
      (tail = '.' :: (fraction ++ x) ∧ ∀ c ∈ fraction, c.isDigit = true) := by
  unfold splitFraction at h
  split at h <;> obtain ⟨rfl, rfl⟩ := Prod.mk.inj h
  · right
    rw [List.takeWhile_append_dropWhile]
    exact ⟨rfl, fun c hc => List.mem_takeWhile_imp hc⟩
  · exact .inl ⟨rfl, rfl⟩

/-- Reading takes the leading digits off, then those behind the point, then the power of
ten. -/
lemma readUnsigned?_append {negative : Bool} {whole tail fraction x : List Char}
    (hwhole : ∀ c ∈ whole, c.isDigit = true) (htail : EndsClass Char.isDigit tail)
    (hsplit : splitFraction tail = (fraction, x)) (hsome : ¬(whole = [] ∧ fraction = [])) :
    readUnsigned? negative (whole ++ tail) =
      (readExponent? x).map fun exponent => ⟨negative, whole, fraction, exponent⟩ := by
  simp only [readUnsigned?, htail.takeWhile_append hwhole, htail.dropWhile_append hwhole, hsplit]
  rw [if_neg hsome]

/-- The digits around the point are taken off, whatever power of ten follows them. -/
lemma readUnsigned?_of_mantissa {negative : Bool} {whole fraction m x : List Char}
    (hm : Mantissa whole fraction m) (hdigit : EndsClass Char.isDigit x)
    (hpoint : EndsClass (· == '.') x) :
    readUnsigned? negative (m ++ x) =
      (readExponent? x).map fun exponent => ⟨negative, whole, fraction, exponent⟩ := by
  have hends : ∀ rest, EndsClass Char.isDigit ('.' :: rest) := by rintro _ _ ⟨⟩; rfl
  cases hm with
  | whole h =>
      exact readUnsigned?_append h.2 hdigit (splitFraction_absent hpoint) fun hnil => h.1 hnil.1
  | pointed h hf =>
      rw [List.append_assoc]
      exact readUnsigned?_append h.2 (hends _) (splitFraction_point hf hdigit)
        fun hnil => h.1 hnil.1
  | fraction h =>
      exact readUnsigned?_append (List.forall_mem_nil _) (hends _)
        (splitFraction_point h.2 hdigit) fun hnil => h.1 hnil.2

/-- What is read without a sign are digits around a point, and a power of ten. -/
lemma exists_mantissa {negative : Bool} {cs : List Char} {n : Numeral}
    (h : readUnsigned? negative cs = some n) :
    ∃ m x, n.negative = negative ∧ Mantissa n.whole n.fraction m ∧ Power n.exponent x ∧
      cs = m ++ x := by
  have hcs := List.takeWhile_append_dropWhile (p := Char.isDigit) (l := cs)
  have hwhole : ∀ c ∈ cs.takeWhile Char.isDigit, c.isDigit = true :=
    fun c hc => List.mem_takeWhile_imp hc
  obtain ⟨fraction, x, hsplit⟩ :
      ∃ fraction x, splitFraction (cs.dropWhile Char.isDigit) = (fraction, x) := ⟨_, _, rfl⟩
  simp only [readUnsigned?, hsplit] at h
  generalize cs.takeWhile Char.isDigit = whole at hcs hwhole h
  split at h
  · cases h
  · rename_i hsome
    obtain ⟨e, he, rfl⟩ := Option.map_eq_some_iff.mp h
    have hpower : Power e x := readExponent?_eq_some_iff.mp he
    rcases splitFraction_cases hsplit with ⟨rfl, htail⟩ | ⟨htail, hfraction⟩
    · rw [htail] at hcs
      exact ⟨whole, x, rfl, .whole ⟨fun hnil => hsome ⟨hnil, rfl⟩, hwhole⟩, hpower, hcs.symm⟩
    · rw [htail] at hcs
      refine ⟨whole ++ '.' :: fraction, x, rfl, ?_, hpower, ?_⟩
      · by_cases hnil : whole = []
        · subst hnil
          exact .fraction ⟨fun hempty => hsome ⟨rfl, hempty⟩, hfraction⟩
        · exact .pointed ⟨hnil, hwhole⟩ hfraction
      · rw [List.append_assoc, List.cons_append, hcs]

/-- **Numerals are read exactly**: a text is read as a numeral if and only if it is a text of
that numeral. -/
theorem read?_eq_some_iff {cs : List Char} {n : Numeral} : read? cs = some n ↔ n.Written cs := by
  constructor
  · intro h
    obtain ⟨negative, body, hsplit⟩ : ∃ negative body, splitSign cs = (negative, body) :=
      ⟨_, _, rfl⟩
    obtain ⟨sign, hs, rfl⟩ := exists_sign hsplit
    simp only [read?, hsplit] at h
    obtain ⟨m, x, rfl, hm, hp, rfl⟩ := exists_mantissa h
    exact .mk hs hm hp
  · intro h
    cases h with
    | @mk negative whole fraction sign m x exponent hs hm hp =>
        have hsplit := splitSign_append hs (hm.endsClass_isSign x)
        simp only [read?, hsplit]
        rw [readUnsigned?_of_mantissa hm (hp.endsClass rfl rfl) (hp.endsClass rfl rfl),
          readExponent?_eq_some_iff.mpr hp]
        rfl

end Numeral

/-! ### Doubles -/

/-- The names of doubles, in small letters. -/
def doubleNames : List (List Char) :=
  [['i', 'n', 'f'], ['i', 'n', 'f', 'i', 'n', 'i', 't', 'y'], ['n', 'a', 'n']]

/-- The text of a double that has a name: a sign, and the name in letters of any case. -/
def IsName (cs : List Char) : Prop :=
  ∃ negative sign name, Numeral.Sign negative sign ∧ cs = sign ++ name ∧
    name.map Char.toLower ∈ doubleNames

/-- A digit has no small letter of its own. -/
lemma toLower_of_isDigit {c : Char} (h : c.isDigit = true) : c.toLower = c := by
  unfold Char.toLower
  split
  · rename_i hupper
    simp only [Char.isDigit, Bool.and_eq_true, decide_eq_true_eq] at h
    exact absurd (UInt32.le_trans hupper.1 h.2) (by decide)
  · rfl

/-- A name begins with a letter that is in no numeric string. -/
lemma exists_letter {name : List Char} (h : name.map Char.toLower ∈ doubleNames) :
    ∃ c cs, name = c :: cs ∧ Binary64.isNumericChar c = false := by
  obtain ⟨c, cs, rfl⟩ : ∃ c cs, name = c :: cs := by
    cases name with
    | nil => simp [doubleNames] at h
    | cons c cs => exact ⟨c, cs, rfl⟩
  have hletter : c.toLower = 'i' ∨ c.toLower = 'n' := by
    simp only [doubleNames, List.map_cons, List.mem_cons, List.cons.injEq, List.not_mem_nil,
      or_false] at h
    rcases h with ⟨hi, -⟩ | ⟨hi, -⟩ | ⟨hn, -⟩
    · exact .inl hi
    · exact .inl hi
    · exact .inr hn
  refine ⟨c, cs, rfl, Bool.eq_false_iff.mpr fun hc => ?_⟩
  simp only [Binary64.isNumericChar, Bool.or_eq_true, beq_iff_eq] at hc
  rcases hc with ((((hd | rfl) | rfl) | rfl) | rfl) | rfl
  · rw [toLower_of_isDigit hd] at hletter
    rcases hletter with rfl | rfl <;> cases hd
  all_goals revert hletter; decide

/-- No sign stands in front of a name. -/
lemma endsClass_isSign_of_name {name : List Char} (h : name.map Char.toLower ∈ doubleNames) :
    EndsClass Numeral.isSign name := by
  obtain ⟨c, cs, rfl, hc⟩ := exists_letter h
  rintro _ ⟨⟩
  simp only [Binary64.isNumericChar, Bool.or_eq_false_iff] at hc
  rw [Numeral.isSign, hc.1.2, hc.2]
  rfl

namespace Binary64

lemma ofRatio_ne_nan (negative : Bool) (num den : Nat) : ofRatio negative num den ≠ nan := by
  unfold ofRatio
  split <;> nofun

/-- No decimal number is rounded to the NaN. -/
lemma ofDecimal_ne_nan (negative : Bool) (d : Decimal) : ofDecimal negative d ≠ nan := by
  unfold ofDecimal
  split
  · nofun
  · split
    · nofun
    · exact ofRatio_ne_nan _ _ _

/-- No numeral stands for the NaN. -/
lemma ofNumeral_ne_nan (n : Numeral) : ofNumeral n ≠ nan := ofDecimal_ne_nan _ _

lemma isSome_named? {negative : Bool} {name : List Char} :
    (named? negative name).isSome = true ↔ name.map Char.toLower ∈ doubleNames := by
  simp only [named?, doubleNames, List.mem_cons, List.not_mem_nil, or_false, ← or_assoc]
  split
  · rename_i h
    simp [h]
  · rename_i h
    split <;> simp_all

/-- A numeral stands for the nearest double. -/
lemma read?_of_written {n : Numeral} {cs : List Char} (h : n.Written cs) :
    read? cs = some (ofNumeral n) := by
  rw [read?, Numeral.read?_eq_some_iff.mpr h]

/-- A numeral stands for a double, which is not the NaN. -/
lemma exists_read? {cs : List Char} (h : IsNumeral cs) : ∃ x, read? cs = some x ∧ x ≠ nan := by
  obtain ⟨n, hn⟩ := h
  exact ⟨_, read?_of_written hn, ofNumeral_ne_nan n⟩

/-- **The texts that stand for a double** are the numerals, and the names with a sign. -/
theorem isSome_read? {cs : List Char} : (read? cs).isSome = true ↔ IsNumeral cs ∨ IsName cs := by
  constructor
  · intro h
    rw [read?] at h
    split at h
    · rename_i n hn
      exact .inl ⟨n, Numeral.read?_eq_some_iff.mp hn⟩
    · obtain ⟨sign, hs, hcs⟩ := Numeral.exists_sign (rfl : Numeral.splitSign cs = _)
      exact .inr ⟨_, sign, _, hs, hcs, isSome_named?.mp h⟩
  · rintro (⟨n, hn⟩ | ⟨negative, sign, name, hs, rfl, hname⟩)
    · rw [read?_of_written hn]
      rfl
    · rw [read?]
      split
      · rfl
      · rw [Numeral.splitSign_append hs (endsClass_isSign_of_name hname)]
        exact isSome_named?.mpr hname

end Binary64

end Condition
