/-
The command line: `[-f] [-m N] CONTENTS [CONSEQUENT] [ALTERNATE]`.

* `Options`, `Options.read?`: what the arguments ask for, unless they are no
  command line;
* `Options.run`: what the program writes and the code that it ends with, given
  how to read files;
* `report`: a diagnostic with its excerpt;
* `execute`: the whole program, from its arguments on.
-/
import Condition.Excerpt
import Condition.Program

namespace Condition

/-! ### Arguments -/

/-- What the command line asks for. -/
structure Options where
  /-- Whether `contents` names a file that holds the expression. -/
  fromFile : Bool
  /-- The greatest number of bytes of an expression. -/
  maxLength : Nat
  contents : String
  consequent : String
  alternate : String
deriving DecidableEq, Repr

namespace Options

/-- The greatest number of bytes unless another is given. -/
def defaultMaxLength : Nat := 10000

/-- The greatest number that an argument can stand for. -/
def greatestNumber : Nat := 18446744073709551615

/-- Reads a number: digits, with a plus in front or without. -/
def number? (cs : List Char) : Option Nat :=
  let digits := match cs with
    | '+' :: rest => rest
    | _ => cs
  if digits ≠ [] ∧ digits.all Char.isDigit then
    let n := Numeral.digitsValue digits
    if n ≤ greatestNumber then some n else none
  else none

/-- The arguments read so far. -/
structure Seen where
  fromFile : Bool := false
  maxLength : Option Nat := none
  /-- The positional arguments, the last one first. -/
  positionals : List String := []

/-- The option `--file`, which may stand once. -/
def Seen.withFile? (s : Seen) : Option Seen :=
  if s.fromFile then none else some { s with fromFile := true }

/-- The option `--max-length` with its value, which may stand once. -/
def Seen.withMaxLength? (s : Seen) (value : List Char) : Option Seen :=
  match s.maxLength, number? value with
  | none, some n => some { s with maxLength := some n }
  | _, _ => none

/-- What an argument is after some others. -/
inductive Step where
  /-- It is complete. -/
  | complete (seen : Seen)
  /-- It wants the next argument as the greatest length. -/
  | wantsMaxLength (seen : Seen)
  /-- It is no argument of this program. -/
  | unknown

/-- A complete argument, if it was allowed. -/
def Step.ofOption : Option Seen → Step
  | some s => complete s
  | none => unknown

/-- Reads short options that are joined in one argument. All that follows an
`m` is its value, which may have an equals sign in front. -/
def readShort (s : Seen) : List Char → Step
  | [] => .complete s
  | 'f' :: cs =>
    match s.withFile? with
    | some s => readShort s cs
    | none => .unknown
  | ['m'] => .wantsMaxLength s
  | 'm' :: '=' :: value => .ofOption (s.withMaxLength? value)
  | 'm' :: value => .ofOption (s.withMaxLength? value)
  | _ => .unknown

/-- Reads a long option, whose name stands in full. -/
def readLong (s : Seen) (name : List Char) : Step :=
  if name = "file".toList then .ofOption s.withFile?
  else if name = "max-length".toList then .wantsMaxLength s
  else if "max-length=".toList.isPrefixOf name then
    .ofOption (s.withMaxLength? (name.drop "max-length=".length))
  else .unknown

/-- Reads one argument. A hyphen that stands alone is positional. -/
def readArgument (s : Seen) (arg : String) : Step :=
  match arg.toList with
  | '-' :: '-' :: name => readLong s name
  | '-' :: c :: cs => readShort s (c :: cs)
  | _ => .complete { s with positionals := arg :: s.positionals }

/-- Reads all arguments; those after `--` are positional. -/
def readAll (s : Seen) : List String → Option Seen
  | [] => some s
  | arg :: args =>
    if arg = "--" then some { s with positionals := args.reverse ++ s.positionals }
    else
      match readArgument s arg with
      | .complete s => readAll s args
      | .unknown => none
      | .wantsMaxLength s =>
        match args with
        | [] => none
        | value :: args =>
          match s.withMaxLength? value.toList with
          | some s => readAll s args
          | none => none

/-- The options of a command line: one to three positional arguments, of which
the consequent and the alternate may be left out. -/
def read? (args : List String) : Option Options := do
  let seen ← readAll {} args
  let options (contents consequent alternate : String) : Options :=
    { fromFile := seen.fromFile
      maxLength := seen.maxLength.getD defaultMaxLength
      contents, consequent, alternate }
  match seen.positionals.reverse with
  | [contents] => some (options contents "true" "false")
  | [contents, consequent] => some (options contents consequent "false")
  | [contents, consequent, alternate] => some (options contents consequent alternate)
  | _ => none

end Options

/-! ### Running -/

/-- Why a file cannot be read. -/
inductive ReadFault where
  | missing
  | directory
  | notText
  | other (reason : String)
deriving DecidableEq, Repr

/-- The words for a fault in reading. -/
def ReadFault.text : ReadFault → String
  | missing => "No such file or directory (os error 2)"
  | directory => "Is a directory (os error 21)"
  | notText => "stream did not contain valid UTF-8"
  | other reason => reason

/-- What the program has written when it ends, and the code that it ends with. -/
structure Exit where
  code : Nat
  stdout : String
  stderr : String
deriving DecidableEq, Repr

/-- The lines about a diagnostic: its text, its submessage and its hint, and the
excerpt that it points at. -/
def report (source : String) (d : Diagnostic) : String :=
  let notes := [d.submessage, d.hint].filterMap id
  "error: " ++ d.text ++ "\n"
    ++ String.join (notes.map fun m => "  = " ++ m.text ++ "\n")
    ++ excerpt source d.span.start d.span.length ++ "\n"

namespace Options

/-- The expression that the options ask about. A file holds UTF-8 text. -/
def source (o : Options) (readFile : String → Except ReadFault ByteArray) :
    Except ReadFault String :=
  if o.fromFile then do
    let bytes ← readFile o.contents
    match String.fromUTF8? bytes with
    | some text => .ok text
    | none => .error .notText
  else .ok o.contents

/-- What the program answers about an expression: the branch that it chooses. The
length is checked before anything is read. -/
def answer (o : Options) (source : String) : Except Failure String := do
  checkLength source o.maxLength
  branch source o.consequent o.alternate

/-- Runs the program. -/
def run (o : Options) (readFile : String → Except ReadFault ByteArray) : Exit :=
  match o.source readFile with
  | .error fault =>
    { code := 1
      stdout := ""
      stderr := "Failed to read the input file '" ++ o.contents ++ "': " ++ fault.text ++ "\n" }
  | .ok source =>
    match o.answer source with
    | .ok chosen => { code := 0, stdout := chosen ++ "\n", stderr := "" }
    | .error (.fault fault) =>
      { code := 1, stdout := "", stderr := report source fault.diagnostic }
    | .error _ => { code := 101, stdout := "", stderr := "an inner promise was broken\n" }

end Options

/-- What the program writes about arguments that are no command line. -/
def usage : Exit :=
  { code := 2
    stdout := ""
    stderr := "usage: [-f|--file] [-m|--max-length N] CONTENTS [CONSEQUENT] [ALTERNATE]\n" }

/-- What the program does when it is called with arguments. -/
def execute (args : List String) (readFile : String → Except ReadFault ByteArray) : Exit :=
  match Options.read? args with
  | some options => options.run readFile
  | none => usage

end Condition
