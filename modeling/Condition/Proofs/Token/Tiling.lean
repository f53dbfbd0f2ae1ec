/-
How tokens lie in their text.

* `Tiled`: the tokens of a text, each the longest match where it stands, with skipped
  characters around them;
* `Tiled.nil_iff`: the texts without tokens;
* `Tiled.split`: where a token of a text stands, and what is before and behind it;
* `StuckAt`: the place in a text behind which no token follows;
* `text_induction`: a text is read from its front on;
* `scan_outcome`: the scanner gives the tokens of the text, or is stuck;
* `scan_eq_ok_iff`, `tokens_eq_ok_iff`: it gives them whenever the text has tokens.
-/
import Condition.Proofs.Text.Boundary
import Condition.Proofs.Token.Longest

namespace Condition

/-- **The tokens of a text** that starts at an offset: skipped characters, and longest
matches of the rules. -/
inductive Tiled : Nat → List Char → List Token → Prop where
  | nil {offset : Nat} : Tiled offset [] []
  | blank {offset : Nat} {c : Char} {cs : List Char} {ts : List Token}
      (hc : isSkipped c = true) (h : Tiled (offset + c.utf8Size) cs ts) :
      Tiled offset (c :: cs) ts
  | token {offset : Nat} {kind : TokenKind} {w cs : List Char} {ts : List Token}
      (hw : LongestMatch (w ++ cs) w kind) (h : Tiled (offset + Text.width w) cs ts) :
      Tiled offset (w ++ cs) (⟨String.ofList w, kind, offset⟩ :: ts)

/-- The match that the scanner finds is a token. -/
lemma Tiled.of_longest? {offset : Nat} {cs : List Char} {ts : List Token} {m : Munch}
    (hm : longest? cs = some m)
    (h : Tiled (offset + Text.width (cs.take m.length)) (cs.drop m.length) ts) :
    Tiled offset cs (⟨String.ofList (cs.take m.length), m.kind, offset⟩ :: ts) := by
  have hmatch : LongestMatch (cs.take m.length ++ cs.drop m.length) (cs.take m.length) m.kind := by
    rw [List.take_append_drop]
    exact (longest?_eq_some hm).2
  have htiled := Tiled.token hmatch h
  rwa [List.take_append_drop] at htiled

/-- **A text has no tokens** if all of it is skipped. -/
lemma Tiled.nil_iff {offset : Nat} {cs : List Char} :
    Tiled offset cs [] ↔ ∀ c ∈ cs, isSkipped c = true := by
  constructor
  · intro h
    generalize hts : ([] : List Token) = ts at h
    induction h with
    | nil => exact List.forall_mem_nil _
    | blank hc _ ih => exact List.forall_mem_cons.mpr ⟨hc, ih hts⟩
    | token => cases hts
  · intro h
    induction cs generalizing offset with
    | nil => exact .nil
    | cons c cs ih =>
        obtain ⟨hc, hcs⟩ := List.forall_mem_cons.mp h
        exact .blank hc (ih hcs)

/-- A token of its own text, before the tokens that follow. -/
lemma Tiled.of_longestMatch {t : Token} {cs : List Char} {ts : List Token}
    (hw : LongestMatch (t.lexeme.toList ++ cs) t.lexeme.toList t.kind)
    (h : Tiled t.span.stop cs ts) : Tiled t.offset (t.lexeme.toList ++ cs) (t :: ts) := by
  have htiled := Tiled.token hw h
  rwa [String.ofList_toList] at htiled

/-- **Where a token of a text stands**, with the texts of the tokens before and behind it. -/
lemma Tiled.split {offset : Nat} {cs : List Char} {front back : List Token} {t : Token}
    (h : Tiled offset cs (front ++ t :: back)) :
    ∃ before after, cs = before ++ (t.lexeme.toList ++ after) ∧
      t.offset = offset + Text.width before ∧
      LongestMatch (t.lexeme.toList ++ after) t.lexeme.toList t.kind ∧
      Tiled offset before front ∧ Tiled t.span.stop after back := by
  generalize hts : front ++ t :: back = ts at h
  induction h generalizing front with
  | nil => exact absurd hts (by simp)
  | @blank offset c cs ts hc _ ih =>
      obtain ⟨before, after, rfl, hoffset, hmatch, hbefore, hafter⟩ := ih hts
      rw [Nat.add_assoc] at hoffset
      exact ⟨c :: before, after, rfl, hoffset, hmatch, .blank hc hbefore, hafter⟩
  | @token offset kind w cs ts hw h ih =>
      cases front with
      | nil =>
          obtain ⟨rfl, rfl⟩ := List.cons.inj hts
          simp only [Token.span, String.toList_ofList]
          exact ⟨[], cs, rfl, rfl, hw, .nil, h⟩
      | cons u front =>
          obtain ⟨rfl, htail⟩ := List.cons.inj hts
          obtain ⟨before, after, rfl, hoffset, hmatch, hbefore, hafter⟩ := ih htail
          rw [Nat.add_assoc, ← Text.width_append] at hoffset
          exact ⟨w ++ before, after, by rw [List.append_assoc], hoffset, hmatch,
            .token hw.truncate hbefore, hafter⟩

/-! ### The scanner -/

lemma scan_blank {c : Char} (hc : isSkipped c = true) (offset : Nat) (cs : List Char) :
    scan offset (c :: cs) = scan (offset + c.utf8Size) cs := by
  rw [scan, if_pos hc]

lemma scan_token {w cs : List Char} {kind : TokenKind} (hw : LongestMatch (w ++ cs) w kind)
    (offset : Nat) :
    scan offset (w ++ cs) =
      (scan (offset + Text.width w) cs).map (⟨String.ofList w, kind, offset⟩ :: ·) := by
  obtain ⟨m, hm, rfl, htake⟩ := hw.longest?_eq
  obtain ⟨c, v, rfl, hc⟩ := hw.exists_cons
  have hdrop : (c :: (v ++ cs)).drop m.length = cs := by
    have hsplit := List.take_append_drop m.length ((c :: v) ++ cs)
    rw [htake] at hsplit
    exact List.append_cancel_left hsplit
  rw [List.cons_append] at hm htake ⊢
  rw [scan, if_neg (by simp [hc])]
  simp only [hm, htake, hdrop]
  cases scan (offset + Text.width (c :: v)) cs <;> rfl

/-- The text is the text of some tokens up to a character, at the offset `p`, that is
not skipped and where no rule matches. -/
def StuckAt (offset : Nat) (cs : List Char) (p : Nat) : Prop :=
  ∃ before c after ts, cs = before ++ c :: after ∧ p = offset + Text.width before ∧
    Tiled offset before ts ∧ isSkipped c = false ∧
    ∀ rule ∈ rules, ∀ v, v <+: c :: after → ¬rule.pattern.Matches v

lemma StuckAt.blank {offset p : Nat} {c : Char} {cs : List Char} (hc : isSkipped c = true)
    (h : StuckAt (offset + c.utf8Size) cs p) : StuckAt offset (c :: cs) p := by
  obtain ⟨before, d, after, ts, rfl, rfl, hts, hd⟩ := h
  exact ⟨c :: before, d, after, ts, rfl, Nat.add_assoc _ _ _, .blank hc hts, hd⟩

lemma StuckAt.token {offset p : Nat} {kind : TokenKind} {w cs : List Char}
    (hw : LongestMatch (w ++ cs) w kind) (h : StuckAt (offset + Text.width w) cs p) :
    StuckAt offset (w ++ cs) p := by
  obtain ⟨before, d, after, ts, rfl, rfl, hts, hd⟩ := h
  -- the match stays the longest one when the text ends where the scanner is stuck
  refine ⟨w ++ before, d, after, ⟨String.ofList w, kind, offset⟩ :: ts, ?_, ?_,
    .token hw.truncate hts, hd⟩
  · rw [List.append_assoc]
  · rw [Text.width_append, Nat.add_assoc]

lemma scan_stuck {c : Char} {cs : List Char} (hc : isSkipped c = false)
    (hnone : longest? (c :: cs) = none) (offset : Nat) :
    scan offset (c :: cs) = .error offset := by
  rw [scan, if_neg (by simp [hc]), hnone]

/-- **A text from its front on**: it is empty, or it begins with a skipped character, with a
longest match, or with a character that is not skipped and where no rule matches. -/
@[elab_as_elim]
lemma text_induction {P : List Char → Prop} (nil : P [])
    (blank : ∀ c cs, isSkipped c = true → P cs → P (c :: cs))
    (token : ∀ w cs kind, LongestMatch (w ++ cs) w kind → P cs → P (w ++ cs))
    (stuck : ∀ c cs, isSkipped c = false → longest? (c :: cs) = none → P (c :: cs))
    (cs : List Char) : P cs := by
  induction hn : cs.length using Nat.strongRecOn generalizing cs with
  | ind n ih =>
      subst hn
      cases cs with
      | nil => exact nil
      | cons c cs =>
          by_cases hc : isSkipped c = true
          · exact blank c cs hc (ih _ (by simp) cs rfl)
          · cases hm : longest? (c :: cs) with
            | none => exact stuck c cs (by simpa using hc) hm
            | some m =>
                obtain ⟨hle, hlongest⟩ := longest?_eq_some hm
                have hsplit := List.take_append_drop m.length (c :: cs)
                have hlt : ((c :: cs).drop m.length).length < (c :: cs).length := by
                  have := m.length_pos
                  rw [List.length_drop]
                  omega
                have hrest := ih _ hlt _ rfl
                rw [← hsplit] at hlongest ⊢
                exact token _ _ m.kind (by simpa using hlongest) hrest

/-- **The outcome of scanning**: the tokens of the text, or the place where it is stuck. -/
theorem scan_outcome (offset : Nat) (cs : List Char) :
    (∃ ts, scan offset cs = .ok ts ∧ Tiled offset cs ts) ∨
      ∃ p, scan offset cs = .error p ∧ StuckAt offset cs p := by
  induction cs using text_induction generalizing offset with
  | nil => exact .inl ⟨[], by rw [scan], .nil⟩
  | blank c cs hc ih =>
      rw [scan_blank hc]
      rcases ih (offset + c.utf8Size) with ⟨ts, hts, h⟩ | ⟨p, hp, h⟩
      · exact .inl ⟨ts, hts, .blank hc h⟩
      · exact .inr ⟨p, hp, .blank hc h⟩
  | token w cs kind hw ih =>
      rw [scan_token hw]
      rcases ih (offset + Text.width w) with ⟨ts, hts, h⟩ | ⟨p, hp, h⟩
      · exact .inl ⟨_, by rw [hts]; rfl, .token hw h⟩
      · exact .inr ⟨p, by rw [hp]; rfl, .token hw h⟩
  | stuck c cs hc hnone =>
      exact .inr ⟨offset, scan_stuck hc hnone offset, [], c, cs, [], rfl, rfl, .nil, hc,
        longest?_eq_none_iff.mp hnone⟩

/-- **The scanner gives the tokens of the text**, if it has tokens. -/
theorem scan_eq_ok_iff {offset : Nat} {cs : List Char} {ts : List Token} :
    scan offset cs = .ok ts ↔ Tiled offset cs ts := by
  constructor
  · intro h
    rcases scan_outcome offset cs with ⟨ts', hts, htiled⟩ | ⟨p, hp, -⟩
    · rw [h, Except.ok.injEq] at hts
      rwa [hts]
    · rw [h] at hp
      cases hp
  · intro h
    induction h with
    | nil => rw [scan]
    | blank hc _ ih => rw [scan_blank hc, ih]
    | token hw _ ih =>
        rw [scan_token hw, ih]
        rfl

lemma stuckAt_of_scan {offset p : Nat} {cs : List Char} (h : scan offset cs = .error p) :
    StuckAt offset cs p := by
  rcases scan_outcome offset cs with ⟨ts, hts, -⟩ | ⟨p', hp, hstuck⟩
  · rw [h] at hts
    cases hts
  · rw [h, Except.error.injEq] at hp
    rwa [hp]

/-! ### Source texts -/

/-- The fault of a source text where the scanner is stuck names the character there. -/
lemma tokens_eq_error {source : String} {before after : List Char} {c : Char}
    (hsource : source.toList = before ++ c :: after)
    (h : scan 0 source.toList = .error (Text.width before)) :
    tokens source = .error (.fault (.unidentified (some c) (Text.width before))) := by
  have hfault : Fault.unidentifiedAt source.toList (Text.width before) =
      .ok (.unidentified (some c) (Text.width before)) := by
    rw [Fault.unidentifiedAt, hsource, Text.from?_append]
    rfl
  rw [tokens, h]
  simp only [hfault]
  rfl

/-- **A source text gives its tokens**, if it has tokens. -/
theorem tokens_eq_ok_iff {source : String} {ts : List Token} :
    tokens source = .ok ts ↔ Tiled 0 source.toList ts := by
  rw [← scan_eq_ok_iff]
  cases hscan : scan 0 source.toList with
  | ok us =>
      rw [tokens, hscan]
      simp
  | error p =>
      obtain ⟨before, c, after, us, hsource, hp, -⟩ := stuckAt_of_scan hscan
      rw [hp, Nat.zero_add] at hscan
      rw [tokens_eq_error hsource hscan]
      simp

end Condition
