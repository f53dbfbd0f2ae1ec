/-
The command line as a front of the language.

* `Options.Gives`: the text that a command line asks about, inline or in a file;
* `Points`, `excerpt_points`: the two lines of an excerpt, with carets under the first;
* `report_eq`, `Exit.Reports`: the lines of a report, which the excerpt ends;
* `Options.answer_cases`: the program chooses a branch or has a fault at a piece of the text;
* `execute_faithful`: a run prints the branch that the language chooses, or it reports what
  the language does, and it does not matter where the text is from.
-/
import Condition.Proofs.CommandLine.Arguments
import Condition.Proofs.Excerpt
import Condition.Proofs.Program.Place
import Condition.Proofs.Text.Bytes

namespace Condition

open Text

/-! ### The text that is asked about -/

/-- **The text that a command line asks about**: the first positional argument itself, or the
content of the file that it names. -/
inductive Options.Gives (o : Options) (readFile : String → Except ReadFault ByteArray) :
    String → Prop where
  | inline (h : o.fromFile = false) : o.Gives readFile o.contents
  | file {s : String} (h : o.fromFile = true) (hread : readFile o.contents = .ok s.toUTF8) :
      o.Gives readFile s

/-- It is what the program reads. -/
lemma Options.Gives.source_eq {o : Options} {readFile : String → Except ReadFault ByteArray}
    {s : String} (h : o.Gives readFile s) : o.source readFile = .ok s := by
  cases h with
  | inline h => rw [Options.source, h, if_neg Bool.false_ne_true]
  | file h hread =>
      simp only [Options.source, h, if_true, hread, bind, Except.bind, fromUTF8?_toUTF8]

/-! ### The lines of a report -/

/-- **Two lines**, of which the second points to some characters of the first with carets. -/
structure Points (block : String) (shown : List Char) (column carets : Nat) : Prop where
  lines : block.toList =
    shown ++ '\n' :: (List.replicate column ' ' ++ List.replicate carets '^')
  unbroken : '\n' ∉ shown
  carets_pos : 0 < carets
  below : column + carets ≤ shown.length

/-- **The excerpt at a piece of the text** points to some of it. -/
lemma excerpt_points {s : String} {span : Span} (h : span.Within s.toList) :
    ∃ shown column carets, Points (excerpt s span.start span.length) shown column carets := by
  obtain ⟨before, left, marked, right, after, hparts⟩ :=
    Excerpt.exists_parts s.toList span.start span.length
  have haround := Excerpt.around_spec s.toList span.start span.length
  have hlength : 0 < span.length := Nat.sub_pos_of_lt h.start_lt_stop
  have hstop : span.start + span.length = span.stop :=
    Nat.add_sub_of_le (Nat.le_of_lt h.start_lt_stop)
  generalize he : Excerpt.around s.toList span.start span.length = e at hparts haround
  refine ⟨e.shown s.toList, e.lead.length + left.length, marked.length, ?_,
    Excerpt.lineFeed_not_mem_shown _ _, ?_, ?_⟩
  · rw [← hparts.marks_eq, ← he]
    exact String.toList_ofList
  · exact haround.length_marked_pos hparts hlength h.isBoundary_start
      (hstop ▸ h.isBoundary_stop)
  · rw [hparts.shown_eq]
    simp only [List.length_append, List.length_map]
    omega

/-- The line about a submessage or a hint, if there is one. -/
def noteLine : Option Message → String
  | none => ""
  | some m => "  = " ++ m.text ++ "\n"

/-- **The lines of a report**: one about the diagnostic, one for each of its submessage and its
hint, and the excerpt. -/
lemma report_eq (s : String) (d : Diagnostic) :
    report s d = "error: " ++ d.text ++ "\n" ++ noteLine d.submessage ++ noteLine d.hint ++
      excerpt s d.span.start d.span.length ++ "\n" := by
  rw [report]
  cases d.submessage <;> cases d.hint <;>
    simp [noteLine, String.join, String.append_assoc]

/-- **The program ends with a report**: nothing else is written, and the report is the line about
the diagnostic, the lines about its submessage and its hint, and an excerpt with a caret at
least. -/
structure Exit.Reports (exit : Exit) (s : String) (d : Diagnostic) : Prop where
  code_eq : exit.code = 1
  stdout_eq : exit.stdout = ""
  stderr_eq : exit.stderr = report s d
  points : ∃ block shown column carets,
    exit.stderr = "error: " ++ d.text ++ "\n" ++ noteLine d.submessage ++ noteLine d.hint ++
      block ++ "\n" ∧
    block = excerpt s d.span.start d.span.length ∧ Points block shown column carets

/-! ### What is answered -/

/-- What a branch blames is a piece of the text. -/
lemma branch_error_within {s consequent alternate : String} {failure : Failure}
    (h : branch s consequent alternate = .error failure) :
    ∃ f, failure = .fault f ∧ f.diagnostic.span.Within s.toList := by
  cases hvalue : evaluate s with
  | error failure' =>
      rw [branch, hvalue] at h
      cases h
      exact evaluate_error_within hvalue
  | ok value =>
      rw [branch, hvalue] at h
      cases h

namespace Options

variable {o : Options} {s : String}

/-- **The length goes first**: a text that is too long is not read. -/
lemma answer_of_long (h : o.maxLength < width s.toList) :
    o.answer s = .error (.fault (.overlong s.toList o.maxLength)) := by
  rw [answer, checkLength, if_pos h]
  rfl

/-- A text that is not too long is left to the language. -/
lemma answer_of_fits (h : width s.toList ≤ o.maxLength) :
    o.answer s = branch s o.consequent o.alternate := by
  rw [answer, checkLength, if_neg (Nat.not_lt.mpr h)]
  rfl

/-- A branch is answered if the text is not too long and the language chooses this branch. -/
lemma answer_eq_ok_iff {chosen : String} :
    o.answer s = .ok chosen ↔
      width s.toList ≤ o.maxLength ∧ branch s o.consequent o.alternate = .ok chosen := by
  rcases Nat.lt_or_ge o.maxLength (width s.toList) with hlong | hfits
  · rw [answer_of_long hlong]
    exact ⟨fun h => (nomatch h), fun h => absurd h.1 (Nat.not_le.mpr hlong)⟩
  · rw [answer_of_fits hfits]
    exact ⟨fun h => ⟨hfits, h⟩, fun h => h.2⟩

/-- **No promise is broken**: the program chooses a branch, or it blames a piece of the text. -/
lemma answer_cases (o : Options) (s : String) :
    (∃ chosen, o.answer s = .ok chosen) ∨
      ∃ f, o.answer s = .error (.fault f) ∧ f.diagnostic.span.Within s.toList := by
  rcases Nat.lt_or_ge o.maxLength (width s.toList) with hlong | hfits
  · exact .inr ⟨_, answer_of_long hlong, overlong_within hlong⟩
  · rw [answer_of_fits hfits]
    cases hbranch : branch s o.consequent o.alternate with
    | ok chosen => exact .inl ⟨chosen, rfl⟩
    | error failure =>
        obtain ⟨f, rfl, hwithin⟩ := branch_error_within hbranch
        exact .inr ⟨f, rfl, hwithin⟩

/-! ### Runs -/

variable {readFile : String → Except ReadFault ByteArray}

/-- The branch that is answered is printed. -/
lemma run_of_ok {chosen : String} (hs : o.Gives readFile s) (h : o.answer s = .ok chosen) :
    o.run readFile = ⟨0, chosen ++ "\n", ""⟩ := by
  simp only [run, hs.source_eq, h]

/-- The fault that is answered is reported. -/
lemma run_of_fault {f : Fault} (hs : o.Gives readFile s) (h : o.answer s = .error (.fault f)) :
    o.run readFile = ⟨1, "", report s f.diagnostic⟩ := by
  simp only [run, hs.source_eq, h]

/-- A fault at a piece of the text is reported with an excerpt that points to it. -/
lemma run_reports {f : Fault} (hs : o.Gives readFile s) (h : o.answer s = .error (.fault f))
    (hwithin : f.diagnostic.span.Within s.toList) :
    (o.run readFile).Reports s f.diagnostic := by
  rw [run_of_fault hs h]
  obtain ⟨shown, column, carets, hpoints⟩ := excerpt_points hwithin
  exact ⟨rfl, rfl, rfl, _, shown, column, carets, report_eq s _, rfl, hpoints⟩

/-- **A run prints a branch** if and only if this branch is answered. -/
lemma run_eq_iff {chosen : String} (hs : o.Gives readFile s) :
    o.run readFile = ⟨0, chosen ++ "\n", ""⟩ ↔ o.answer s = .ok chosen := by
  refine ⟨fun hrun => ?_, run_of_ok hs⟩
  rcases answer_cases o s with ⟨chosen', h⟩ | ⟨f, h, -⟩
  · rw [run_of_ok hs h] at hrun
    have hline : chosen' ++ "\n" = chosen ++ "\n" := congrArg Exit.stdout hrun
    rw [h, (String.append_left_inj _).mp hline]
  · rw [run_of_fault hs h] at hrun
    exact absurd (congrArg Exit.code hrun) Nat.one_ne_zero

/-- **It does not matter where the text is from**: runs about one text with the same limit and
the same branches are the same. -/
lemma run_congr {o' : Options} {readFile' : String → Except ReadFault ByteArray}
    (hs : o.Gives readFile s) (hs' : o'.Gives readFile' s)
    (hmax : o'.maxLength = o.maxLength) (hconsequent : o'.consequent = o.consequent)
    (halternate : o'.alternate = o.alternate) : o'.run readFile' = o.run readFile := by
  have hanswer : o'.answer s = o.answer s := by
    rw [answer, answer, hmax, hconsequent, halternate]
  simp only [run, hs.source_eq, hs'.source_eq, hanswer]

end Options

/-- Arguments that are a command line are run. -/
lemma execute_eq_run {args : List String} {o : Options}
    (hargs : Options.read? args = some o) (readFile : String → Except ReadFault ByteArray) :
    execute args readFile = o.run readFile := by
  rw [execute, hargs]

/-- The written options are run. -/
lemma execute_arguments {o : Options} (h : o.maxLength ≤ Options.greatestNumber)
    (readFile : String → Except ReadFault ByteArray) :
    execute o.arguments readFile = o.run readFile :=
  execute_eq_run (Options.read?_arguments h) readFile

/-- **The command line is a faithful front of the language.** Let the arguments ask about the
text `s`, which is inline or in a file. The run prints a branch and a line feed, and nothing
else, if and only if the text has no more bytes than allowed and the language chooses this
branch. Otherwise the run has the code 1, prints nothing and writes a report, whose excerpt has
a caret at least. The report is the one about too long texts whenever the text has more bytes
than allowed, whatever they are, and else the one of the language. All arguments that ask
about the same text with the same limit and the same branches have the same run, and there are
such arguments with the text itself, and with the name of any file that holds it. -/
theorem execute_faithful {args : List String} {o : Options}
    {readFile : String → Except ReadFault ByteArray} {s : String}
    (hargs : Options.read? args = some o) (hs : o.Gives readFile s) :
    (∀ chosen, execute args readFile = ⟨0, chosen ++ "\n", ""⟩ ↔
        s.utf8ByteSize ≤ o.maxLength ∧ branch s o.consequent o.alternate = .ok chosen) ∧
      ((¬ ∃ chosen, s.utf8ByteSize ≤ o.maxLength ∧
          branch s o.consequent o.alternate = .ok chosen) →
        ∃ f, (execute args readFile).Reports s f.diagnostic ∧
          if o.maxLength < s.utf8ByteSize then
            checkLength s o.maxLength = .error (.fault f) ∧
              f.diagnostic.message.key = "expressions-too-long"
          else branch s o.consequent o.alternate = .error (.fault f)) ∧
      (∀ args' o' readFile', Options.read? args' = some o' → o'.Gives readFile' s →
        o'.maxLength = o.maxLength → o'.consequent = o.consequent →
        o'.alternate = o.alternate → execute args' readFile' = execute args readFile) ∧
      ∀ name readFile', readFile' name = .ok s.toUTF8 →
        execute (Options.arguments { o with fromFile := true, contents := name }) readFile' =
            execute args readFile ∧
          execute (Options.arguments { o with fromFile := false, contents := s }) readFile' =
            execute args readFile := by
  have hlimit := Options.maxLength_le hargs
  rw [execute_eq_run hargs, ← width_toList]
  refine ⟨fun chosen => ?_, fun hnone => ?_, ?_, fun name readFile' hread => ⟨?_, ?_⟩⟩
  · rw [Options.run_eq_iff hs, Options.answer_eq_ok_iff]
  · rcases Options.answer_cases o s with ⟨chosen, h⟩ | ⟨f, h, hwithin⟩
    · exact absurd ⟨chosen, Options.answer_eq_ok_iff.mp h⟩ hnone
    refine ⟨f, Options.run_reports hs h hwithin, ?_⟩
    split
    · next hlong =>
        rw [Options.answer_of_long hlong] at h
        cases h
        exact ⟨by rw [checkLength, if_pos hlong], rfl⟩
    · next hfits => rwa [Options.answer_of_fits (Nat.not_lt.mp hfits)] at h
  · intro args' o' readFile' hargs' hs' hmax hconsequent halternate
    rw [execute_eq_run hargs']
    exact Options.run_congr hs hs' hmax hconsequent halternate
  · rw [execute_arguments]
    · exact Options.run_congr hs (.file rfl hread) rfl rfl rfl
    · exact hlimit
  · rw [execute_arguments]
    · exact Options.run_congr hs (.inline rfl) rfl rfl rfl
    · exact hlimit

/-- A file that holds `!false` has the answer of this text as an argument. Three characters are
too long for two bytes, before it is found that no token starts with them. -/
theorem execute_faithful_not_false :
    let readFile : String → Except ReadFault ByteArray := fun name =>
      if name = "c.txt" then .ok "!false".toUTF8 else .error .missing
    execute ["-f", "-m", "10", "c.txt", "yes", "no"] readFile = ⟨0, "yes\n", ""⟩ ∧
      execute ["-m10", "!false", "yes", "no"] readFile =
        execute ["-f", "-m", "10", "c.txt", "yes", "no"] readFile ∧
      ∃ f : Fault, (execute ["-m2", "@@@"] readFile).Reports "@@@" f.diagnostic ∧
        f.diagnostic.message.key = "expressions-too-long" := by
  intro readFile
  have hfile : Options.read? ["-f", "-m", "10", "c.txt", "yes", "no"] =
      some ⟨true, 10, "c.txt", "yes", "no"⟩ := by decide +kernel
  have hinline : Options.read? ["-m10", "!false", "yes", "no"] =
      some ⟨false, 10, "!false", "yes", "no"⟩ := by decide +kernel
  have hlimit : Options.read? ["-m2", "@@@"] = some ⟨false, 2, "@@@", "true", "false"⟩ := by
    decide +kernel
  have htokens : tokens "!false" = .ok [⟨"!", .not, 0⟩, ⟨"false", .falseLiteral, 1⟩] := by
    decide +kernel
  have hoperand : Derives .unary [⟨"false", .falseLiteral, 1⟩] [0]
      (.literal (.boolean false) ⟨1, 6⟩) := .primary (.literal rfl)
  have hparse : parse "!false" =
      .ok (.unary .not "!" (.literal (.boolean false) ⟨1, 6⟩) ⟨0, 6⟩ 2) :=
    (parse_eq_ok_iff rfl).mpr ⟨_, _, tokens_eq_ok_iff.mp htokens,
      (Derives.prefixed rfl hoperand).loosen, fits_zero.mpr ⟨by decide, by decide⟩⟩
  have hbranch : branch "!false" "yes" "no" = .ok "yes" := by
    rw [branch, evaluate_of_parse hparse]
    rfl
  have hgives : Options.Gives ⟨true, 10, "c.txt", "yes", "no"⟩ readFile "!false" := .file rfl rfl
  have hgives' : Options.Gives ⟨false, 2, "@@@", "true", "false"⟩ readFile "@@@" := .inline rfl
  obtain ⟨hchosen, -, hsame, -⟩ := execute_faithful hfile hgives
  obtain ⟨-, hreport, -, -⟩ := execute_faithful hlimit hgives'
  have hlong : 2 < "@@@".utf8ByteSize := by decide
  have hnone : ¬∃ chosen, "@@@".utf8ByteSize ≤ 2 ∧
      branch "@@@" "true" "false" = .ok chosen := by
    rintro ⟨_, hfits, -⟩
    exact absurd hlong (Nat.not_lt.mpr hfits)
  obtain ⟨f, hf, hkey⟩ := hreport hnone
  refine ⟨(hchosen "yes").mpr ⟨by decide, hbranch⟩,
    hsame _ _ _ hinline (.inline rfl) rfl rfl rfl, f, hf, ?_⟩
  rw [if_pos hlong] at hkey
  exact hkey.2

end Condition
