/-
Texts with blanks between them.

* `isSeam_of_isSkipped`: no token goes on with a skipped character;
* `scan_moved`: the scanner gives the same further on, or is stuck further on;
* `Tiled.scan_append`: it goes on behind a text with tokens, at a seam, as if nothing had
  been before;
* `Spaced`: the lexemes of tokens with blanks between them;
* `tokens_spaced`: the tokens of a text, blanks and another text are those of the one and of
  the other, so that lexemes can be put together again with any blanks.
-/
import Condition.Proofs.Fault
import Condition.Proofs.Token.MaximalMunch
import Condition.Proofs.Token.Seam

namespace Condition

variable {offset : Nat} {cs blanks rest : List Char} {ts : List Token}

/-! ### Skipped characters -/

/-- Skipped characters are at a seam: no spelling and no number has one, and a quoted text is
complete before it. -/
lemma isSeam_of_isSkipped {c : Char} (h : isSkipped c = true) : isSeam c = true := by
  simp only [isSkipped, Bool.or_eq_true, beq_iff_eq] at h
  rcases h with ((((rfl | rfl) | rfl) | rfl) | rfl) | rfl <;> decide

/-- A run of skipped characters is skipped. -/
lemma scan_blanks (h : ∀ c ∈ blanks, isSkipped c = true) (offset : Nat) (rest : List Char) :
    scan offset (blanks ++ rest) = scan (offset + Text.width blanks) rest := by
  induction blanks generalizing offset with
  | nil => rfl
  | cons c blanks ih =>
      rw [List.forall_mem_cons] at h
      rw [List.cons_append, scan_blank h.1, ih h.2, Text.width_cons, Nat.add_assoc]

/-! ### No context to the left -/

/-- What a scan gives `k` bytes further on: the tokens there, or the place there where it is
stuck. -/
def scanMoved (k : Nat) (result : Except Nat (List Token)) : Except Nat (List Token) :=
  (result.map (List.map (Token.moved k))).mapError (· + k)

/-- **The scanner knows no places**, whether the text has tokens or not. -/
lemma scan_moved (k offset : Nat) (cs : List Char) :
    scan (offset + k) cs = scanMoved k (scan offset cs) := by
  induction cs using text_induction generalizing offset with
  | nil => simp [scan, scanMoved, Except.map, Except.mapError]
  | blank c cs hc ih =>
      rw [scan_blank hc, scan_blank hc, Nat.add_right_comm, ih]
  | token w cs kind hw ih =>
      rw [scan_token hw, scan_token hw, Nat.add_right_comm, ih]
      cases scan (offset + Text.width w) cs <;> rfl
  | stuck c cs hc hnone =>
      rw [scan_stuck hc hnone, scan_stuck hc hnone]
      rfl

/-- **Behind a text with tokens** the scanner goes on at a seam as if nothing had been
before. -/
lemma Tiled.scan_append {c : Char} (hc : isSeam c = true) (h : Tiled offset cs ts)
    (rest : List Char) :
    scan offset (cs ++ c :: rest) =
      (scan (offset + Text.width cs) (c :: rest)).map (ts ++ ·) := by
  induction h with
  | nil =>
      rw [List.nil_append, Text.width_nil, Nat.add_zero]
      cases scan _ (c :: rest) <;> rfl
  | @blank offset d cs ts hblank _ ih =>
      rw [List.cons_append, scan_blank hblank, ih, Text.width_cons, Nat.add_assoc]
  | @token offset kind w cs ts hw _ ih =>
      rw [List.append_assoc, scan_token (hw.seam hc rest), ih, Text.width_append, Nat.add_assoc]
      cases scan (offset + (Text.width w + Text.width cs)) (c :: rest) <;> rfl

/-- **A text, blanks and another text**: the scanner gives the tokens of both, or it is stuck
where it is stuck in the other one. -/
lemma Tiled.scan_spaced (h : Tiled 0 cs ts) (hne : blanks ≠ [])
    (hblanks : ∀ c ∈ blanks, isSkipped c = true) (rest : List Char) :
    scan 0 (cs ++ (blanks ++ rest)) =
      (scanMoved (Text.width cs + Text.width blanks) (scan 0 rest)).map (ts ++ ·) := by
  obtain ⟨c, blanks, rfl⟩ := List.exists_cons_of_ne_nil hne
  have hc : isSkipped c = true := hblanks c List.mem_cons_self
  calc scan 0 (cs ++ (c :: blanks ++ rest))
      = (scan (0 + Text.width cs) (c :: (blanks ++ rest))).map (ts ++ ·) :=
        h.scan_append (isSeam_of_isSkipped hc) _
    _ = (scan (0 + Text.width cs + Text.width (c :: blanks)) rest).map (ts ++ ·) := by
        rw [← List.cons_append, scan_blanks hblanks]
    _ = (scan (0 + (Text.width cs + Text.width (c :: blanks))) rest).map (ts ++ ·) := by
        rw [Nat.add_assoc]
    _ = (scanMoved (Text.width cs + Text.width (c :: blanks)) (scan 0 rest)).map (ts ++ ·) := by
        rw [scan_moved]

/-! ### Lexemes put together again -/

/-- **Lexemes with blanks between them**: the text of the tokens, one after the other, with one
skipped character or more between each two. -/
inductive Spaced : List Token → List Char → Prop where
  | nil : Spaced [] []
  | last (t : Token) : Spaced [t] t.lexeme.toList
  | next {t u : Token} {ts : List Token} {blanks rest : List Char} (hne : blanks ≠ [])
      (hblanks : ∀ c ∈ blanks, isSkipped c = true) (h : Spaced (u :: ts) rest) :
      Spaced (t :: u :: ts) (t.lexeme.toList ++ (blanks ++ rest))

/-- What a token is, apart from its place. -/
def Token.word (t : Token) : TokenKind × String := (t.kind, t.lexeme)

/-- The lexeme of a token of a text has just this token. -/
lemma Tiled.lexeme {t : Token} (h : Tiled offset cs ts) (ht : t ∈ ts) :
    Tiled 0 t.lexeme.toList [⟨t.lexeme, t.kind, 0⟩] := by
  obtain ⟨before, after, -, -, hmatch⟩ := h.located ht
  have halone : LongestMatch (t.lexeme.toList ++ []) t.lexeme.toList t.kind := hmatch.truncate
  have htiled : Tiled 0 (t.lexeme.toList ++ []) [⟨String.ofList t.lexeme.toList, t.kind, 0⟩] :=
    .token halone .nil
  rwa [String.ofList_toList, List.append_nil] at htiled

/-- **Put together again with any blanks**, the lexemes of tokens are tokens of these kinds. -/
lemma Spaced.tiled {text : List Char} (h : Spaced ts text)
    (hts : ∀ t ∈ ts, Tiled 0 t.lexeme.toList [⟨t.lexeme, t.kind, 0⟩]) :
    ∃ us, Tiled 0 text us ∧ us.map Token.word = ts.map Token.word := by
  induction h with
  | nil => exact ⟨[], .nil, rfl⟩
  | last t => exact ⟨_, hts t List.mem_cons_self, rfl⟩
  | @next t u ts blanks rest hne hblanks _ ih =>
      rw [List.forall_mem_cons] at hts
      obtain ⟨us, hus, hwords⟩ := ih hts.2
      have hscan := hts.1.scan_spaced hne hblanks rest
      rw [scan_eq_ok_iff.mpr hus] at hscan
      refine ⟨_, scan_eq_ok_iff.mp hscan, ?_⟩
      show t.word :: (us.map (Token.moved _)).map Token.word = t.word :: (u :: ts).map Token.word
      rw [List.map_map, ← hwords]
      rfl

/-- **Blanks between two texts.** Let a source text have tokens, and let one skipped character
or more and another source text follow it. If the other text has tokens, the whole has the
tokens of both, those of the other one further on by what comes before it. If not, the whole
is reported as the other text is, further on as well. And the lexemes of the text, put
together again with any blanks between them, are tokens of the same kinds. -/
theorem tokens_spaced (a : String) (ts : List Token) (ha : tokens a = .ok ts) :
    (∀ w b : String, w ≠ "" → (∀ c ∈ w.toList, isSkipped c = true) →
      match tokens b with
      | .ok us =>
        tokens (a ++ w ++ b) =
          .ok (ts ++ us.map (Token.moved (Text.width a.toList + Text.width w.toList)))
      | .error failure =>
        ∃ f g, failure = .fault f ∧ tokens (a ++ w ++ b) = .error (.fault g) ∧
          g.diagnostic = f.diagnostic.moved (Text.width a.toList + Text.width w.toList)) ∧
    ∀ text : String, Spaced ts text.toList →
      ∃ us, tokens text = .ok us ∧ us.map Token.word = ts.map Token.word := by
  have htiled := tokens_eq_ok_iff.mp ha
  refine ⟨fun w b hne hw => ?_, fun text htext => ?_⟩
  · have hw' : w.toList ≠ [] := by simpa using hne
    have hscan := htiled.scan_spaced hw' hw b.toList
    have htext : (a ++ w ++ b).toList = a.toList ++ (w.toList ++ b.toList) := by simp
    rw [← htext] at hscan
    cases hb : scan 0 b.toList with
    | ok us =>
        rw [hb] at hscan
        have hus : tokens b = .ok us := tokens_eq_ok_iff.mpr (scan_eq_ok_iff.mp hb)
        rw [hus]
        exact tokens_eq_ok_iff.mpr (scan_eq_ok_iff.mp hscan)
    | error p =>
        obtain ⟨before, c, after, us, hsource, rfl, -⟩ := stuckAt_of_scan hb
        rw [Nat.zero_add] at hb
        rw [hb] at hscan
        -- the place in the whole text is behind the two texts that come before
        have hwidth : Text.width before + (Text.width a.toList + Text.width w.toList) =
            Text.width (a.toList ++ (w.toList ++ before)) := by
          rw [Text.width_append, Text.width_append]
          omega
        have hwhole : (a ++ w ++ b).toList = (a.toList ++ (w.toList ++ before)) ++ c :: after := by
          rw [htext, hsource, List.append_assoc, List.append_assoc]
        have hfault : scan 0 (a ++ w ++ b).toList =
            .error (Text.width before + (Text.width a.toList + Text.width w.toList)) := hscan
        rw [hwidth] at hfault
        rw [tokens_eq_error hsource hb]
        refine ⟨_, _, rfl, tokens_eq_error hwhole hfault, ?_⟩
        rw [← hwidth]
        exact Fault.diagnostic_moved _ (f := .unidentified (some c) (Text.width before)) (by simp)
  · have hspaced := htext.tiled fun t ht => htiled.lexeme ht
    obtain ⟨us, hus, hwords⟩ := hspaced
    exact ⟨us, tokens_eq_ok_iff.mpr hus, hwords⟩

/-- The theorem at `!<`, which would be a part of `!<>` without a blank before `>`. Behind
another blank `=` starts no token, and is reported there. -/
theorem tokens_spaced_less :
    tokens "!<" = .ok [⟨"!", .not, 0⟩, ⟨"<", .less, 1⟩] ∧
      tokens ("!<" ++ " " ++ ">") =
        .ok [⟨"!", .not, 0⟩, ⟨"<", .less, 1⟩, ⟨">", .greater, 3⟩] ∧
      (∃ g, tokens ("!<" ++ "\n" ++ "=") = .error (.fault g) ∧ g.diagnostic.span = ⟨3, 4⟩) ∧
      ∃ us, tokens "!\t<" = .ok us ∧ us.map Token.word = [(.not, "!"), (.less, "<")] := by
  have ha : tokens "!<" = .ok [⟨"!", .not, 0⟩, ⟨"<", .less, 1⟩] := by
    refine tokens_eq_ok_iff.mpr ?_
    have htext : "!<".toList = ['!', '<'] := by simp
    rw [htext]
    refine .of_longest? (m := ⟨.not, 1, by decide⟩) rfl ?_
    exact .of_longest? (m := ⟨.less, 1, by decide⟩) rfl .nil
  have hb : tokens ">" = .ok [⟨">", .greater, 0⟩] := by
    refine tokens_eq_ok_iff.mpr ?_
    have htext : ">".toList = ['>'] := by simp
    rw [htext]
    exact .of_longest? (m := ⟨.greater, 1, by decide⟩) rfl .nil
  have hb' : tokens "=" = .error (.fault (.unidentified (some '=') 0)) := by
    have htext : "=".toList = [] ++ '=' :: [] := by simp
    refine tokens_eq_error htext ?_
    rw [htext]
    exact scan_stuck rfl rfl 0
  have hspaced : Spaced [⟨"!", .not, 0⟩, ⟨"<", .less, 1⟩] "!\t<".toList := by
    have htext : "!\t<".toList = "!".toList ++ (['\t'] ++ "<".toList) := by simp
    rw [htext]
    exact .next (t := ⟨"!", .not, 0⟩) (by simp) (by simp [isSkipped]) (.last ⟨"<", .less, 1⟩)
  obtain ⟨hjoin, hrejoin⟩ := tokens_spaced _ _ ha
  have hgood := hjoin " " ">" (by decide) (by simp [isSkipped])
  have hbad := hjoin "\n" "=" (by decide) (by simp [isSkipped])
  rw [hb] at hgood
  rw [hb'] at hbad
  obtain ⟨f, g, hf, hg, hspan⟩ := hbad
  obtain rfl := Failure.fault.inj hf
  refine ⟨ha, hgood, ⟨g, hg, ?_⟩, hrejoin _ hspaced⟩
  rw [hspan]
  rfl

end Condition
