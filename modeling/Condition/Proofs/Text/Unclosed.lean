/-
The search for an open parenthesis, told by the bytes of the text.

* `Text.filterMap_bytes`: the parentheses of a text are those of its bytes, so both are
  balanced or neither is;
* `Text.searchBytes`: the search as it runs on bytes, with a counter that may not fall below
  zero; `searchBytes_eq` steps it character by character;
* `unclosedParen_exact`: the search finds the last place in the bytes behind which one
  parenthesis more is opened than is closed.
-/
import Mathlib.Data.List.Induction
import Mathlib.Data.Nat.PSub
import Mathlib.Order.Bounds.Defs
import Condition.Proofs.Text.Bytes
import Condition.Proofs.Text.Paren

namespace Condition.Text

/-! ### Parentheses in bytes -/

/-- Which bytes are parentheses. -/
def byteParen? (b : UInt8) : Option Paren :=
  if b = 0x28 then some .opening else if b = 0x29 then some .closing else none

/-- A byte of a wider character is no parenthesis. -/
lemma byteParen?_of_le {b : UInt8} (h : 128 ≤ b.toNat) : byteParen? b = none := by
  have hopen : b ≠ 0x28 := by
    rintro rfl
    contradiction
  have hclose : b ≠ 0x29 := by
    rintro rfl
    contradiction
  rw [byteParen?, if_neg hopen, if_neg hclose]

/-- A character of one byte is the parenthesis that its byte is. -/
lemma byteParen?_ofNat {c : Char} (h : c.toNat < 128) :
    byteParen? (UInt8.ofNat c.toNat) = paren? c := by
  have hbyte {d : Char} (hd : d.toNat < 128) :
      UInt8.ofNat c.toNat = UInt8.ofNat d.toNat ↔ c = d := by
    rw [← UInt8.toNat_inj, ← Char.toNat_inj, UInt8.toNat_ofNat', UInt8.toNat_ofNat']
    omega
  have hopen : UInt8.ofNat c.toNat = 0x28 ↔ c = '(' := hbyte (d := '(') (by decide)
  have hclose : UInt8.ofNat c.toNat = 0x29 ↔ c = ')' := hbyte (d := ')') (by decide)
  simp only [byteParen?, paren?, hopen, hclose]

/-- No wider character is a parenthesis. -/
lemma paren?_of_le {c : Char} (h : 128 ≤ c.toNat) : paren? c = none := by
  refine paren?_eq_none.mpr ⟨?_, ?_⟩ <;>
    · rintro rfl
      contradiction

/-- A character is a parenthesis as one of its bytes is. -/
lemma filterMap_utf8EncodeChar (c : Char) :
    (String.utf8EncodeChar c).filterMap byteParen? = (paren? c).toList := by
  rcases utf8EncodeChar_cases c with ⟨hc, hbytes⟩ | ⟨hc, hbytes⟩
  · rw [hbytes, List.filterMap_cons, byteParen?_ofNat hc]
    cases paren? c <;> rfl
  · rw [paren?_of_le hc]
    exact List.filterMap_eq_nil_iff.mpr fun b hb => byteParen?_of_le (hbytes b hb)

/-- **The parentheses of a text** are those of its bytes. -/
lemma filterMap_bytes (cs : List Char) :
    (bytes cs).filterMap byteParen? = cs.filterMap paren? := by
  induction cs with
  | nil => rfl
  | cons c cs ih =>
      rw [bytes_cons, List.filterMap_append, filterMap_utf8EncodeChar, ih, List.filterMap_cons]
      cases paren? c <;> rfl

lemma settled_bytes {cs : List Char} : Settled byteParen? (bytes cs) ↔ Settled paren? cs := by
  rw [← settled_filterMap, filterMap_bytes, settled_filterMap]

lemma balanced_bytes {cs : List Char} : Balanced byteParen? (bytes cs) ↔ Balanced paren? cs := by
  rw [← balanced_filterMap, filterMap_bytes, balanced_filterMap]

/-- The excess of a list of bytes is the number of its opening parentheses less that of its
closing ones. -/
lemma excess_eq_count (bs : List UInt8) :
    excess byteParen? bs = (bs.count 0x28 : Int) - bs.count 0x29 := by
  induction bs with
  | nil => rfl
  | cons b bs ih =>
      have hvalue : Paren.value (byteParen? b) =
          ((if b == 0x28 then 1 else 0 : Nat) : Int) - (if b == 0x29 then 1 else 0 : Nat) := by
        grind [byteParen?, Paren.value]
      rw [excess_cons, ih, List.count_cons, List.count_cons, hvalue]
      omega

/-! ### The search on bytes -/

/-- The search from the byte `index` on towards the start, while `wanted` more opening
parentheses than closing ones are looked for. It fails if it reads a byte that is not there,
or counts down from zero. -/
def searchBytes (bs : List UInt8) : (wanted index : Nat) → Option Nat
  | _, 0 => some 0
  | wanted, index + 1 =>
    if wanted = 0 then some (index + 1)
    else do
      let b ← bs[index]?
      match byteParen? b with
      | some .opening => searchBytes bs (← wanted.ppred) index
      | some .closing => searchBytes bs (wanted + 1) index
      | none => searchBytes bs wanted index

lemma searchBytes_zero (bs : List UInt8) (index : Nat) :
    searchBytes bs 0 index = some index := by
  cases index <;> rfl

/-- The search reads the byte before the place where it is. -/
lemma searchBytes_step (before : List UInt8) (b : UInt8) (after : List UInt8) (n : Nat) :
    searchBytes (before ++ b :: after) (n + 1) (before.length + 1) =
      match byteParen? b with
      | some .opening => searchBytes (before ++ b :: after) n before.length
      | some .closing => searchBytes (before ++ b :: after) (n + 2) before.length
      | none => searchBytes (before ++ b :: after) (n + 1) before.length := by
  rw [searchBytes, if_neg (Nat.succ_ne_zero n), List.getElem?_append_right (Nat.le_refl _),
    Nat.sub_self]
  rfl

/-- Bytes that are no parentheses are passed over. -/
lemma searchBytes_skip (before after : List UInt8) {mid : List UInt8} (n : Nat)
    (h : ∀ b ∈ mid, byteParen? b = none) :
    searchBytes (before ++ (mid ++ after)) (n + 1) (before.length + mid.length) =
      searchBytes (before ++ (mid ++ after)) (n + 1) before.length := by
  induction mid using List.reverseRecOn generalizing after with
  | nil => rfl
  | append_singleton mid b ih =>
      have hstep := searchBytes_step (before ++ mid) b after n
      rw [h b (by simp)] at hstep
      have hmid := ih (b :: after) fun b' hb' => h b' (List.mem_append_left _ hb')
      simp only [List.append_assoc, List.length_append, List.singleton_append,
        List.length_singleton, ← Nat.add_assoc] at hstep hmid ⊢
      exact hstep.trans hmid

/-- The search reads the bytes of a character, which may be a parenthesis. -/
lemma searchBytes_char (before : List UInt8) (c : Char) (after : List UInt8) (n : Nat) :
    searchBytes (before ++ (String.utf8EncodeChar c ++ after)) (n + 1)
        (before.length + c.utf8Size) =
      match paren? c with
      | some .opening =>
        searchBytes (before ++ (String.utf8EncodeChar c ++ after)) n before.length
      | some .closing =>
        searchBytes (before ++ (String.utf8EncodeChar c ++ after)) (n + 2) before.length
      | none =>
        searchBytes (before ++ (String.utf8EncodeChar c ++ after)) (n + 1) before.length := by
  have hsize := String.length_utf8EncodeChar c
  rcases utf8EncodeChar_cases c with ⟨hc, hbytes⟩ | ⟨hc, hbytes⟩
  · rw [hbytes, List.length_singleton] at hsize
    rw [hbytes, ← hsize, List.singleton_append, searchBytes_step, byteParen?_ofNat hc]
  · rw [← hsize, searchBytes_skip _ _ _ fun b hb => byteParen?_of_le (hbytes b hb),
      paren?_of_le hc]

/-- **The search on bytes** goes as the search by characters does. -/
lemma searchBytes_eq (pending : Nat) (front back : List Char) :
    searchBytes (bytes (front ++ back)) (pending + 1) (width front) =
      some (unclosedFrom pending (width front) front.reverse) := by
  induction front using List.reverseRecOn generalizing pending back with
  | nil => rfl
  | append_singleton front c ih =>
      have hrest (n : Nat) := ih n (c :: back)
      rw [bytes_append, bytes_cons, ← length_bytes] at hrest
      rw [unclosedFrom_concat, List.append_assoc, List.singleton_append, bytes_append, bytes_cons,
        width_append, width_cons, width_nil, Nat.add_zero c.utf8Size, ← length_bytes,
        searchBytes_char]
      cases paren? c with
      | none => exact hrest pending
      | some p => cases p with
        | closing => exact hrest (pending + 1)
        | opening => cases pending with
          | zero => exact searchBytes_zero _ _
          | succ n => exact hrest n

/-! ### Where it ends -/

/-- The bytes from the index on open one parenthesis more than they close. -/
def OpensOneMore (bs : List UInt8) (i : Nat) : Prop :=
  (bs.drop i).count 0x28 = (bs.drop i).count 0x29 + 1

lemma opensOneMore_iff {bs : List UInt8} {i : Nat} :
    OpensOneMore bs i ↔ excess byteParen? (bs.drop i) = 1 := by
  rw [OpensOneMore, excess_eq_count]
  omega

/-- Where nothing is left open, no end part opens one more than it closes. -/
lemma not_opensOneMore {bs : List UInt8} (h : Settled byteParen? bs) (i : Nat) :
    ¬OpensOneMore bs i := by
  rw [opensOneMore_iff]
  have hle := h _ (List.drop_suffix i bs)
  omega

/-- A parenthesis with balanced bytes behind it is the last place of that kind. -/
lemma isGreatest_opensOneMore {front back : List UInt8} (h : Balanced byteParen? back) :
    IsGreatest {i | OpensOneMore (front ++ 0x28 :: back) i} front.length := by
  refine ⟨opensOneMore_iff.mpr ?_, fun i hi => Nat.le_of_not_lt fun hlt => ?_⟩
  · rw [List.drop_left, excess_cons, h.excess_eq]
    rfl
  · -- an end part behind the parenthesis is one of the balanced bytes
    obtain ⟨k, rfl⟩ := Nat.exists_eq_add_of_lt hlt
    refine not_opensOneMore h.settled k ?_
    have hmore := opensOneMore_iff.mp hi
    rw [Nat.add_assoc, List.drop_length_add_append, List.drop_succ_cons] at hmore
    exact opensOneMore_iff.mpr hmore

/-- **The search for an open parenthesis is exact.** On the bytes of every text it runs to its
end: its counter never falls below zero, and no byte is read that is not there. It ends at
the greatest index from which on the bytes have exactly one opening parenthesis more than
closing ones, and an opening one is there; or it ends at zero, if there is no such index. -/
theorem unclosedParen_exact (source : String) :
    let bs := source.toUTF8.data.toList
    let i := unclosedParen source.toList
    searchBytes bs 1 bs.length = some i ∧
      (IsGreatest {k | (bs.drop k).count 0x28 = (bs.drop k).count 0x29 + 1} i ∧
          bs[i]? = some 0x28 ∨
        i = 0 ∧ ∀ k, (bs.drop k).count 0x28 ≠ (bs.drop k).count 0x29 + 1) := by
  intro bs i
  have hbytes : bs = bytes source.toList := toUTF8_eq_bytes source
  constructor
  · have hsearch := searchBytes_eq 0 source.toList []
    rw [List.append_nil, ← length_bytes, ← hbytes] at hsearch
    rw [hsearch, hbytes, length_bytes]
    rfl
  · rcases unclosedParen_cases source.toList with
      ⟨hsettled, hstart⟩ | ⟨front, back, hsource, hback, hopen⟩
    · rw [← settled_bytes, ← hbytes] at hsettled
      exact .inr ⟨hstart, not_opensOneMore hsettled⟩
    · left
      have hi : i = (bytes front).length := hopen.trans (length_bytes front).symm
      have hsplit : bs = bytes front ++ 0x28 :: bytes back := by
        rw [hbytes, hsource, bytes_append, bytes_cons]
        rfl
      rw [hi, hsplit]
      exact ⟨isGreatest_opensOneMore (balanced_bytes.mpr hback), by simp⟩

example : unclosedParen "(1) or (2 > (1)".toList = 7 := by decide

end Condition.Text
