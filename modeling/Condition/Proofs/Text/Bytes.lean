/-
The bytes of a text.

* `Text.bytes`: the UTF-8 form of a text, which is as long as the text is wide
  (`length_bytes`);
* `Text.toUTF8_eq_bytes`, `Text.width_toList`, `Text.fromUTF8?_toUTF8`: the bytes of a string,
  their number, and the string that is read from them;
* `Text.utf8EncodeChar_cases`: a character is its own byte, or none of its bytes is below 128;
* `Text.isContinuation`, `Text.utf8EncodeChar_eq_cons`: all bytes of a character but its first
  one tell that they go on with it.
-/
import Condition.Text.Offset
import Mathlib.Tactic.Lemma

namespace Condition.Text

/-- The UTF-8 form of a text. -/
def bytes (cs : List Char) : List UInt8 := cs.flatMap String.utf8EncodeChar

@[simp] lemma bytes_cons (c : Char) (cs : List Char) :
    bytes (c :: cs) = String.utf8EncodeChar c ++ bytes cs := List.flatMap_cons

@[simp] lemma bytes_append (cs ds : List Char) : bytes (cs ++ ds) = bytes cs ++ bytes ds :=
  List.flatMap_append

/-- A text has as many bytes as it is wide. -/
lemma length_bytes (cs : List Char) : (bytes cs).length = width cs := by
  induction cs with
  | nil => rfl
  | cons c cs ih =>
      rw [bytes_cons, List.length_append, String.length_utf8EncodeChar, ih, width_cons]

/-! ### Strings -/

/-- The bytes of a string are those of its characters. -/
lemma toUTF8_eq_bytes (s : String) : s.toUTF8.data.toList = bytes s.toList := by
  rw [String.toUTF8_eq_toByteArray, ← String.utf8Encode_toList, List.utf8Encode,
    List.data_toByteArray]
  rfl

/-- The number of bytes of a string. -/
lemma width_toList (s : String) : width s.toList = s.utf8ByteSize := by
  rw [← length_bytes, ← toUTF8_eq_bytes]
  rfl

/-- A string is read back from its bytes. -/
lemma fromUTF8?_toUTF8 (s : String) : String.fromUTF8? s.toUTF8 = some s := by
  rw [String.fromUTF8?, String.toUTF8_eq_toByteArray, dif_pos s.isValidUTF8]
  rfl

/-! ### Characters -/

/-- **A character is its own byte**, or it has bytes of 128 and above only. -/
lemma utf8EncodeChar_cases (c : Char) :
    c.toNat < 128 ∧ String.utf8EncodeChar c = [UInt8.ofNat c.toNat] ∨
      128 ≤ c.toNat ∧ ∀ b ∈ String.utf8EncodeChar c, 128 ≤ b.toNat := by
  fun_cases String.utf8EncodeChar c with
  | case1 v h => exact .inl ⟨Nat.lt_succ_of_le h, rfl⟩
  | case2 v h | case3 v h | case4 v h =>
      refine .inr ⟨Nat.lt_of_not_le h, ?_⟩
      simp only [List.forall_mem_cons, List.not_mem_nil, false_implies, implies_true, and_true,
        UInt8.toNat_ofNat']
      omega

/-- A byte that goes on with a character, and begins none. -/
def isContinuation (b : UInt8) : Bool := 0x80 ≤ b.toNat && b.toNat < 0xC0

/-- **Only its first byte begins a character**: those behind it go on with it. -/
lemma utf8EncodeChar_eq_cons (c : Char) :
    ∃ b bs, String.utf8EncodeChar c = b :: bs ∧ isContinuation b = false ∧
      ∀ b' ∈ bs, isContinuation b' = true := by
  have hfirst (n : Nat) (h : n % 256 < 0x80 ∨ 0xC0 ≤ n % 256) :
      isContinuation (UInt8.ofNat n) = false := by
    simp only [isContinuation, UInt8.toNat_ofNat', Bool.and_eq_false_iff, decide_eq_false_iff_not]
    omega
  have hnext (n : Nat) : isContinuation (UInt8.ofNat (n % 64 + 0x80)) = true := by
    simp only [isContinuation, UInt8.toNat_ofNat', Bool.and_eq_true, decide_eq_true_eq]
    omega
  fun_cases String.utf8EncodeChar c with
  | case1 v h => exact ⟨_, _, rfl, hfirst _ (by omega), List.forall_mem_nil _⟩
  | case2 v h | case3 v h | case4 v h =>
      refine ⟨_, _, rfl, hfirst _ (by omega), ?_⟩
      simp only [List.forall_mem_cons, List.not_mem_nil, false_implies, implies_true, and_true,
        hnext]

end Condition.Text
