/-
The arguments of the command line.

* `Options.maxLength_le`: no command line has a greatest length that is no number;
* `Options.arguments`, `Options.read?_arguments`: a command line for all options with such a
  length, and that it is read as these.
-/
import Condition.CommandLine
import Condition.Proofs.Number.ReadBack

namespace Condition.Options

/-! ### Numbers -/

/-- A number is read from its digits. -/
lemma number?_repr {n : Nat} (h : n ≤ greatestNumber) : number? n.repr.toList = some n := by
  have hdigits := digits_toDigits n
  rw [Nat.toList_repr]
  have hvalue : Numeral.digitsValue (Nat.toDigits 10 n) = n := digitsValue_toDigits n
  rw [number?, if_pos ⟨hdigits.1, List.all_eq_true.mpr hdigits.2⟩, hvalue]
  · exact if_pos h
  · intro rest hplus
    exact absurd (hdigits.2 '+' (hplus ▸ List.mem_cons_self)) (by decide)

/-- What an argument stands for is no greater than the greatest number. -/
lemma le_of_mem_number? (cs : List Char) : ∀ n ∈ number? cs, n ≤ greatestNumber := by
  fun_cases number? cs with
  | case1 digits hdigits n hle =>
      rintro n' hn'
      cases hn'
      exact hle
  | case2 | case3 => exact fun _ hn => nomatch hn

/-! ### What has been seen -/

/-- **No number is too great** that has been seen. -/
def Seen.Bounded (s : Seen) : Prop := ∀ n ∈ s.maxLength, n ≤ greatestNumber

/-- A step sees no number that is too great. -/
def Step.Bounded : Step → Prop
  | complete s => s.Bounded
  | wantsMaxLength s => s.Bounded
  | unknown => True

lemma Seen.Bounded.withFile? {s s' : Seen} (hs : s.Bounded) (h : s.withFile? = some s') :
    s'.Bounded := by
  rw [Seen.withFile?] at h
  split at h
  · cases h
  · cases h
    exact hs

lemma Seen.bounded_of_withMaxLength? {s s' : Seen} {value : List Char}
    (h : s.withMaxLength? value = some s') : s'.Bounded := by
  rw [Seen.withMaxLength?] at h
  split at h
  · next hnumber =>
    cases h
    intro n hn
    cases hn
    exact le_of_mem_number? _ _ hnumber
  · cases h

lemma Step.bounded_ofOption {x : Option Seen} (h : ∀ s, x = some s → s.Bounded) :
    (Step.ofOption x).Bounded := by
  cases x with
  | none => trivial
  | some s => exact h s rfl

lemma bounded_readShort {s : Seen} (hs : s.Bounded) (cs : List Char) :
    (readShort s cs).Bounded := by
  fun_induction readShort s cs with
  | case1 | case4 => exact hs
  | case2 s cs s' h ih => exact ih (hs.withFile? h)
  | case3 | case7 => trivial
  | case5 | case6 => exact Step.bounded_ofOption fun _ => Seen.bounded_of_withMaxLength?

lemma bounded_readLong {s : Seen} (hs : s.Bounded) (name : List Char) :
    (readLong s name).Bounded := by
  rw [readLong]
  split
  · exact Step.bounded_ofOption fun _ => hs.withFile?
  · split
    · exact hs
    · split
      · exact Step.bounded_ofOption fun _ => Seen.bounded_of_withMaxLength?
      · trivial

lemma bounded_readArgument {s : Seen} (hs : s.Bounded) (arg : String) :
    (readArgument s arg).Bounded := by
  rw [readArgument]
  split
  · exact bounded_readLong hs _
  · exact bounded_readShort hs _
  · exact hs

lemma bounded_readAll {s s' : Seen} {args : List String} (hs : s.Bounded)
    (h : readAll s args = some s') : s'.Bounded := by
  fun_induction readAll s args with
  | case1 s | case2 s args =>
      cases h
      exact hs
  | case3 s arg args hne seen hstep ih =>
      have hseen := bounded_readArgument hs arg
      rw [hstep] at hseen
      exact ih hseen h
  | case6 s arg hne seen hstep value args seen' hvalue ih =>
      exact ih (Seen.bounded_of_withMaxLength? hvalue) h
  | case4 | case5 | case7 => cases h

/-- **The greatest length** of a command line is no greater than the greatest number. -/
lemma maxLength_le {args : List String} {o : Options} (h : read? args = some o) :
    o.maxLength ≤ greatestNumber := by
  obtain ⟨seen, hseen, h⟩ := Option.bind_eq_some_iff.mp h
  have hbounded : seen.Bounded := bounded_readAll (fun _ hn => by cases hn) hseen
  have hmax : o.maxLength = seen.maxLength.getD defaultMaxLength := by
    split at h <;> cases h <;> rfl
  rw [hmax]
  cases hlimit : seen.maxLength with
  | none => decide
  | some n => exact hbounded n hlimit

/-! ### Written options -/

/-- A command line that asks for the options: those of the program stand in front, and a double
hyphen before all else, which may have hyphens of its own then. -/
def arguments (o : Options) : List String :=
  (if o.fromFile then ["-f"] else []) ++
    ["-m", o.maxLength.repr, "--", o.contents, o.consequent, o.alternate]

/-- The short option for a file. -/
lemma readAll_file (args : List String) :
    readAll {} ("-f" :: args) = readAll { fromFile := true } args := by
  rw [readAll, if_neg (by decide)]
  rfl

/-- The short option for the greatest length, with its value as the next argument. -/
lemma readAll_maxLength {s : Seen} {n : Nat} (hs : s.maxLength = none) (h : n ≤ greatestNumber)
    (args : List String) :
    readAll s ("-m" :: n.repr :: args) = readAll { s with maxLength := some n } args := by
  have hstep : readArgument s "-m" = .wantsMaxLength s := rfl
  have hvalue : s.withMaxLength? n.repr.toList = some { s with maxLength := some n } := by
    rw [Seen.withMaxLength?, hs, number?_repr h]
  rw [readAll, if_neg (by decide), hstep]
  simp only [hvalue]

/-- All that stands behind a double hyphen is positional. -/
lemma readAll_positionals (s : Seen) (args : List String) :
    readAll s ("--" :: args) = some { s with positionals := args.reverse ++ s.positionals } := by
  rw [readAll, if_pos rfl]

/-- **All options can be asked for** whose greatest length is a number. -/
theorem read?_arguments {o : Options} (h : o.maxLength ≤ greatestNumber) :
    read? o.arguments = some o := by
  have hseen : readAll {} o.arguments = some
      { fromFile := o.fromFile
        maxLength := some o.maxLength
        positionals := [o.alternate, o.consequent, o.contents] } := by
    cases hfile : o.fromFile with
    | false =>
        rw [arguments, hfile, if_neg Bool.false_ne_true, List.nil_append, readAll_maxLength rfl h,
          readAll_positionals]
        rfl
    | true =>
        rw [arguments, hfile, if_pos rfl, List.singleton_append, readAll_file,
          readAll_maxLength rfl h, readAll_positionals]
        rfl
  rw [read?, hseen]
  rfl

end Condition.Options
