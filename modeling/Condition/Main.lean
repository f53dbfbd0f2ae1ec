/-
The program: evaluates the expression on the command line, or in a file, and
writes one of two branches.
-/
import Condition.CommandLine

namespace Condition

/-- Reads the bytes of a file. -/
def readFileBytes (name : String) : IO (Except ReadFault ByteArray) := do
  try
    let bytes ← IO.FS.readBinFile name
    return .ok bytes
  catch
    | .noFileOrDirectory .. => return .error .missing
    | .inappropriateType .. => return .error .directory
    | e => return .error (.other e.toString)

/-- Writes what a run has to say, and gives its code. -/
def Exit.write (e : Exit) : IO UInt32 := do
  (← IO.getStdout).putStr e.stdout
  (← IO.getStderr).putStr e.stderr
  return UInt32.ofNat e.code

end Condition

def main (args : List String) : IO UInt32 := do
  -- no other file is asked for
  let contents ←
    match Condition.Options.read? args with
    | some ⟨true, _, name, _, _⟩ => Condition.readFileBytes name
    | _ => pure (.ok .empty)
  (Condition.execute args fun _ => contents).write
