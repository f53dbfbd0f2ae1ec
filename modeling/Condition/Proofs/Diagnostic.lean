/-
The written forms of messages and diagnostics are unambiguous.

* `Message.PlainKeys`: no key, at whatever depth, has a character that the written form uses
  for itself; `Fault.plainKeys_diagnostic`: so it is in all reports;
* `Message.text_cancel`: two such messages that begin one text are equal, and what follows
  them is the same;
* `Diagnostic.text_unambiguous`: so the written form of a message tells the message, and that
  of a diagnostic its kind, its span and its message.
-/
import Condition.Fault
import Condition.Proofs.Text.Quoted

namespace Condition

/-! ### Keys -/

/-- The characters that the written form of a message does not use for itself. -/
def isKeyChar (c : Char) : Bool := !(c == '(' || c == ')' || c == ',' || c == '"')

mutual

/-- No key of the message, at whatever depth, has a parenthesis, a comma or a quote. -/
def Message.PlainKeys : Message → Prop
  | .mk key params => (∀ c ∈ key.toList, isKeyChar c = true) ∧ plainParams params

/-- No key in the parameter has such a character; its texts may have any. -/
def Param.PlainKeys : Param → Prop
  | .plain _ => True
  | .nested m => m.PlainKeys

/-- No key in the parameters has such a character. -/
def plainParams : List Param → Prop
  | [] => True
  | param :: params => param.PlainKeys ∧ plainParams params

end

/-- The keys of a message whose parameters are texts. -/
lemma Fault.plainKeys_plainMessage {key : String} (texts : List String)
    (hkey : key.toList.all isKeyChar = true) : (plainMessage key texts).PlainKeys := by
  refine ⟨List.all_eq_true.mp hkey, ?_⟩
  induction texts with
  | nil => exact trivial
  | cons text texts ih => exact ⟨trivial, ih⟩

lemma Operator.isKeyChar_key (op : Operator) : op.key.toList.all isKeyChar = true := by
  cases op with
  | unary op => cases op <;> simp [key, isKeyChar]
  | binary op => cases op <;> simp [key, isKeyChar]

lemma Fault.isKeyChar_hintKey (kind : TokenKind) (side : Side) :
    (hintKey kind side).toList.all isKeyChar = true := by
  unfold hintKey
  split
  · simp [isKeyChar]
  cases side with
  | backward => simp [isKeyChar]
  | forward =>
      simp only
      split <;> simp [isKeyChar]

/-- **The messages of all reports** have plain keys, the submessages and the hints too. -/
theorem Fault.plainKeys_diagnostic (f : Fault) :
    f.diagnostic.message.PlainKeys ∧ (∀ m ∈ f.diagnostic.submessage, m.PlainKeys) ∧
      ∀ m ∈ f.diagnostic.hint, m.PlainKeys := by
  cases f with
  | unidentified | unclosed | tooLong | tooDeep | missingValue =>
      exact ⟨plainKeys_plainMessage _ (by simp [isKeyChar]), nofun, nofun⟩
  | unexpected token side =>
      refine ⟨plainKeys_plainMessage _ (by simp [isKeyChar]), nofun, ?_⟩
      rintro _ ⟨⟩
      exact plainKeys_plainMessage _ (isKeyChar_hintKey token.kind side)
  | unexpectedEnd =>
      refine ⟨plainKeys_plainMessage _ (by simp [isKeyChar]), nofun, ?_⟩
      rintro _ ⟨⟩
      exact plainKeys_plainMessage _ (by simp [isKeyChar])
  | invalidType operator symbol expected actual span =>
      refine ⟨plainKeys_plainMessage _ (by simp [isKeyChar]), ?_, ?_⟩
      · rintro _ ⟨⟩
        have hkey : "expressions-invalid-type-operand".toList.all isKeyChar = true := by
          simp [isKeyChar]
        exact ⟨List.all_eq_true.mp hkey,
          plainKeys_plainMessage _ operator.isKeyChar_key, trivial, trivial⟩
      · rintro _ ⟨⟩
        exact plainKeys_plainMessage _ (by simp [isKeyChar])

/-! ### What the written forms are made of -/

/-- The written form of the parameters, in the parentheses behind the key. -/
def listed : List Param → List Char
  | [] => []
  | param :: params => '(' :: (param.text.toList ++ (furtherParams params).toList ++ [')'])

lemma Message.toList_text (key : String) (params : List Param) :
    (Message.mk key params).text.toList = key.toList ++ listed params := by
  cases params with
  | nil => simp [Message.text, listed]
  | cons => simp [Message.text, listed]

lemma toList_furtherParams (param : Param) (params : List Param) :
    (furtherParams (param :: params)).toList =
      ',' :: ' ' :: (param.text.toList ++ (furtherParams params).toList) := by
  simp [furtherParams]

/-- What follows a message in a written form: nothing, or the comma or the parenthesis behind a
parameter. -/
def Closes (rest : List Char) : Prop := ∀ c ∈ rest.head?, c = ',' ∨ c = ')'

lemma closes_nil : Closes [] := nofun

lemma not_closes_opening (cs : List Char) : ¬Closes ('(' :: cs) := by
  intro h
  exact absurd (h '(' rfl) (by decide)

/-- Behind a parameter the next one follows, or the parenthesis at the end. -/
lemma closes_furtherParams (params : List Param) (rest : List Char) :
    Closes ((furtherParams params).toList ++ ')' :: rest) := by
  cases params with
  | nil =>
      rintro _ ⟨⟩
      exact .inr rfl
  | cons param params =>
      rw [toList_furtherParams]
      rintro _ ⟨⟩
      exact .inl rfl

/-- Behind a key stands a parenthesis or a comma, if anything. -/
lemma Closes.head_listed {rest : List Char} (h : Closes rest) (params : List Param) :
    ∀ c ∈ (listed params ++ rest).head?, c = '(' ∨ c = ',' ∨ c = ')' := by
  cases params with
  | nil => exact fun c hc => .inr (h c hc)
  | cons param params =>
      rintro _ ⟨⟩
      exact .inl rfl

/-- A key ends where the parameters begin, or at the end of the message. -/
lemma Closes.endsClass_listed {rest : List Char} (h : Closes rest) (params : List Param) :
    EndsClass isKeyChar (listed params ++ rest) := by
  intro c hc
  rcases h.head_listed params c hc with rfl | rfl | rfl <;> rfl

/-- A message does not begin with a quote. -/
lemma Message.text_append_ne_quote {m : Message} {rest : List Char} (hm : m.PlainKeys)
    (hrest : Closes rest) (cs : List Char) : m.text.toList ++ rest ≠ '"' :: cs := by
  obtain ⟨key, params⟩ := m
  intro h
  rw [toList_text, List.append_assoc] at h
  cases hkey : key.toList with
  | nil =>
      rw [hkey, List.nil_append] at h
      have hhead := hrest.head_listed params
      rw [h] at hhead
      exact absurd (hhead '"' rfl) (by decide)
  | cons c key' =>
      rw [hkey, List.cons_append] at h
      obtain ⟨rfl, -⟩ := List.cons.inj h
      have hquote : isKeyChar '"' = true := hm.1 '"' (by rw [hkey]; exact List.mem_cons_self)
      cases hquote

/-! ### Messages are told from each other -/

mutual

/-- **A message in front** of what may follow it tells which message it is, and where it
ends. -/
theorem Message.text_cancel (m : Message) {n : Message} {rest rest' : List Char}
    (hm : m.PlainKeys) (hn : n.PlainKeys) (hrest : Closes rest) (hrest' : Closes rest')
    (h : m.text.toList ++ rest = n.text.toList ++ rest') : m = n ∧ rest = rest' := by
  cases m with
  | mk key params =>
    cases n with
    | mk key' params' =>
      rw [Message.toList_text, Message.toList_text, List.append_assoc, List.append_assoc] at h
      obtain ⟨hkey, hbehind⟩ := EndsClass.append_cancel (hrest.endsClass_listed params)
        (hrest'.endsClass_listed params') hm.1 hn.1 h
      obtain rfl := String.toList_inj.mp hkey
      cases params with
      | nil =>
        cases params' with
        | nil => exact ⟨rfl, hbehind⟩
        | cons param' params' =>
          -- only the other message has parameters
          rw [listed, List.nil_append] at hbehind
          rw [hbehind] at hrest
          exact absurd hrest (not_closes_opening _)
      | cons param params =>
        cases params' with
        | nil =>
          rw [listed, listed, List.nil_append] at hbehind
          rw [← hbehind] at hrest'
          exact absurd hrest' (not_closes_opening _)
        | cons param' params' =>
          simp only [listed, List.cons_append, List.append_assoc, List.nil_append,
            List.cons.injEq, true_and] at hbehind
          obtain ⟨rfl, hfurther⟩ := Param.text_cancel param hm.2.1 hn.2.1
            (closes_furtherParams params rest) (closes_furtherParams params' rest') hbehind
          obtain ⟨rfl, hrest⟩ := furtherParams_cancel params hm.2.2 hn.2.2 hfurther
          exact ⟨rfl, hrest⟩

/-- A parameter in front tells which one it is: a text begins with a quote, and a message does
not. -/
theorem Param.text_cancel (p : Param) {q : Param} {rest rest' : List Char}
    (hp : p.PlainKeys) (hq : q.PlainKeys) (hrest : Closes rest) (hrest' : Closes rest')
    (h : p.text.toList ++ rest = q.text.toList ++ rest') : p = q ∧ rest = rest' := by
  cases p with
  | plain s =>
    cases q with
    | plain t =>
      obtain ⟨rfl, hrest⟩ := Text.quote_append_cancel h
      exact ⟨rfl, hrest⟩
    | nested n =>
      rw [Param.text, Text.toList_quote] at h
      exact absurd h.symm (Message.text_append_ne_quote hq hrest' _)
  | nested m =>
    cases q with
    | plain t =>
      rw [Param.text, Param.text, Text.toList_quote] at h
      exact absurd h (Message.text_append_ne_quote hp hrest _)
    | nested n =>
      obtain ⟨rfl, hrest⟩ := Message.text_cancel m hp hq hrest hrest' h
      exact ⟨rfl, hrest⟩

/-- The further parameters tell which they are: each has a comma in front, and the parenthesis
comes behind the last. -/
theorem furtherParams_cancel (ps : List Param) {qs : List Param} {rest rest' : List Char}
    (hps : plainParams ps) (hqs : plainParams qs)
    (h : (furtherParams ps).toList ++ ')' :: rest = (furtherParams qs).toList ++ ')' :: rest') :
    ps = qs ∧ rest = rest' := by
  cases ps with
  | nil =>
    cases qs with
    | nil => exact ⟨rfl, (List.cons.inj h).2⟩
    | cons q qs =>
      rw [toList_furtherParams] at h
      cases h
  | cons p ps =>
    cases qs with
    | nil =>
      rw [toList_furtherParams] at h
      cases h
    | cons q qs =>
      simp only [toList_furtherParams, List.cons_append, List.append_assoc, List.cons.injEq,
        true_and] at h
      obtain ⟨rfl, hfurther⟩ := Param.text_cancel p hps.1 hqs.1 (closes_furtherParams ps rest)
        (closes_furtherParams qs rest') h
      obtain ⟨rfl, hrest⟩ := furtherParams_cancel ps hps.2 hqs.2 hfurther
      exact ⟨rfl, hrest⟩

end

/-! ### Diagnostics are told from each other -/

/-- A number in front of something else than a digit tells which number it is. -/
lemma repr_append_cancel {m n : Nat} {rest rest' : List Char} (hrest : EndsClass Char.isDigit rest)
    (hrest' : EndsClass Char.isDigit rest')
    (h : m.repr.toList ++ rest = n.repr.toList ++ rest') : m = n ∧ rest = rest' := by
  have hdigits : ∀ k : Nat, ∀ c ∈ k.repr.toList, c.isDigit = true := by
    intro k c hc
    rw [Nat.toList_repr] at hc
    exact Nat.isDigit_of_mem_toDigits (by decide) (by decide) hc
  obtain ⟨hrepr, hrest⟩ := EndsClass.append_cancel hrest hrest' (hdigits m) (hdigits n) h
  rw [Nat.toList_repr, Nat.toList_repr] at hrepr
  have hvalue := congrArg (Nat.ofDigitChars 10 · 0) hrepr
  simp only [Nat.ofDigitChars_ten_toDigits] at hvalue
  exact ⟨hvalue, hrest⟩

namespace Diagnostic

/-- The first two letters tell the kinds of failures apart. -/
lemma Kind.text_append_cancel {k k' : Kind} {rest rest' : List Char}
    (h : k.text.toList ++ rest = k'.text.toList ++ rest') : k = k' ∧ rest = rest' := by
  have hletters : ∀ (k : Kind) (rest : List Char),
      (k.text.toList ++ rest).take 2 = k.text.toList.take 2 := by
    intro k rest
    cases k <;> rfl
  have htake := congrArg (List.take 2) h
  rw [hletters, hletters] at htake
  obtain rfl : k = k' := by cases k <;> cases k' <;> first | rfl | (revert htake; decide)
  exact ⟨rfl, List.append_cancel_left h⟩

/-- The characters of a diagnostic. -/
lemma toList_text (d : Diagnostic) :
    d.text.toList = d.kind.text.toList ++ (" at ".toList ++ (d.span.start.repr.toList ++
      ('.' :: '.' :: (d.span.stop.repr.toList ++ (':' :: ' ' :: d.message.text.toList))))) := by
  simp [text, Span.text]

/-- The written form of a diagnostic tells its kind, its span and the written form of its
message. -/
lemma text_injective {d e : Diagnostic} (h : d.text = e.text) :
    d.kind = e.kind ∧ d.span = e.span ∧ d.message.text = e.message.text := by
  have hends : ∀ cs, EndsClass Char.isDigit ('.' :: cs) := by rintro _ _ ⟨⟩; rfl
  have hends' : ∀ cs, EndsClass Char.isDigit (':' :: cs) := by rintro _ _ ⟨⟩; rfl
  have hchars := String.toList_inj.mpr h
  rw [toList_text, toList_text] at hchars
  obtain ⟨hkind, hplace⟩ := Kind.text_append_cancel hchars
  obtain ⟨hstart, hdots⟩ :=
    repr_append_cancel (hends _) (hends _) (List.append_cancel_left hplace)
  simp only [List.cons.injEq, true_and] at hdots
  obtain ⟨hstop, hmessage⟩ := repr_append_cancel (hends' _) (hends' _) hdots
  simp only [List.cons.injEq, true_and] at hmessage
  have hspan : d.span = e.span := congrArg₂ Span.mk hstart hstop
  exact ⟨hkind, hspan, String.toList_inj.mp hmessage⟩

/-- **Written forms are unambiguous.** Messages whose keys have no parenthesis, comma or quote
are equal if they are written alike, whatever their texts have in them and however deep they
are nested; and diagnostics with such messages that are written alike have the same kind, the
same span and the same message. -/
theorem text_unambiguous :
    (∀ m n : Message, m.PlainKeys → n.PlainKeys → m.text = n.text → m = n) ∧
      ∀ d e : Diagnostic, d.message.PlainKeys → e.message.PlainKeys → d.text = e.text →
        d.kind = e.kind ∧ d.span = e.span ∧ d.message = e.message := by
  have hmessages : ∀ m n : Message, m.PlainKeys → n.PlainKeys → m.text = n.text → m = n := by
    intro m n hm hn h
    have hchars : m.text.toList ++ [] = n.text.toList ++ [] := by rw [h]
    exact (m.text_cancel hm hn closes_nil closes_nil hchars).1
  refine ⟨hmessages, ?_⟩
  intro d e hd he h
  obtain ⟨hkind, hspan, hmessage⟩ := text_injective h
  exact ⟨hkind, hspan, hmessages _ _ hd he hmessage⟩

/-- A text that looks like parameters is told from parameters, and a hint is not written. -/
theorem text_unambiguous_hint :
    let d : Diagnostic :=
      { kind := .parse, span := ⟨0, 3⟩,
        message := .mk "a" [.plain "b\", c(", .nested (.mk "d" [])] }
    let n : Message := .mk "a" [.plain "b", .nested (.mk "c" [.plain ", d"])]
    let e := d.withHint n
    (d.message.text ≠ n.text) ∧ d.text = e.text ∧ d.kind = e.kind ∧ d.span = e.span ∧
      d.message = e.message := by
  intro d n e
  have hm : d.message.PlainKeys := by
    simp [d, Message.PlainKeys, Param.PlainKeys, plainParams, isKeyChar]
  have hn : n.PlainKeys := by
    simp [n, Message.PlainKeys, Param.PlainKeys, plainParams, isKeyChar]
  have hne : d.message ≠ n := by simp [d, n]
  have htext : d.text = e.text := rfl
  exact ⟨fun h => hne (text_unambiguous.1 _ _ hm hn h), htext, text_unambiguous.2 d e hm hm htext⟩

end Diagnostic

end Condition
