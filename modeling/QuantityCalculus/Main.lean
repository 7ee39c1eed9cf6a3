/-
# The program

Runs the command line on the words, the files and the input of the process. Lines of a
conversation are answered as they come.
-/

import QuantityCalculus.CommandLine

namespace QuantityCalculus
namespace CommandLine

/-- The trouble that a failed access to a file stands for. -/
def troubleOf : IO.Error → FileTrouble
  | .noFileOrDirectory .. | .noSuchThing .. => .missing
  | .inappropriateType .. => .isFolder
  | .permissionDenied .. => .other "Permission denied"
  | e => .other (toString e)

/-- The text of a file. -/
def readText (path : String) : IO (Except FileTrouble String) := do
  try
    return .ok (← IO.FS.readFile path)
  catch e =>
    return .error (troubleOf e)

/-- The wording of a fault for the one who runs the program. -/
def wordingOf : Fault → String
  | .error cause => cause.message
  | .misuse cause => cause.message
  | .wrongType explanation => explanation
  | .notObject | .unknownKey => "a value is not where it should be"
  | .overflow | .decimalOverflow => "a number is too large"
  | .stackExhausted => SyntaxError.tooDeep.message
  | .malformedDecimal => "a number is malformed"

/-- Prints a message about what went wrong and gives a status. -/
def complain (message : String) (status : UInt32) : IO UInt32 := do
  (← IO.getStderr).putStrLn message
  return status

/-- Answers lines as they come, and gives the calculator that is left. -/
partial def conversation (json interactive : Bool) (c : AnyCalculator) :
    IO (Except Fault AnyCalculator) := do
  let out ← IO.getStdout
  out.putStr (promptFor interactive)
  out.flush
  let line ← (← IO.getStdin).getLine
  if line.isEmpty then return .ok c
  match c.run (answerLine json line) with
  | (.error fault, _) => return .error fault
  | (.ok none, after) => return .ok after
  | (.ok (some printed), after) =>
    out.putStr printed
    conversation json interactive after

/-- Prints what a run leaves and writes its file. -/
def finish (t : Transcript) : IO UInt32 := do
  (← IO.getStdout).putStr t.output
  if let some (path, text) := t.saved then IO.FS.writeFile path text
  match t.ending with
  | .status code => return UInt32.ofNat code
  | .refused code => complain "usage: [options] eval|repl|units" (UInt32.ofNat code)
  | .stopped message => complain message 1

/-- Has a command executed by a calculator. -/
def perform (a : Arguments) (c : AnyCalculator) : IO UInt32 := do
  match a.command with
  | .converse =>
    match ← conversation a.json (← (← IO.getStdin).isTty) c with
    | .ok after => finish ⟨"", .status 0, savedFile a after⟩
    | .error fault => complain (wordingOf fault) 1
  | _ =>
    match execute a [] false c with
    | .ok t => finish t
    | .error fault => complain (wordingOf fault) 1

end CommandLine
end QuantityCalculus

open QuantityCalculus

/-- The program. -/
def main (words : List String) : IO UInt32 := do
  match Arguments.read words with
  | .error refusal => CommandLine.finish (CommandLine.refused refusal)
  | .ok a =>
    let loaded ← if a.load = "" then pure (.error .missing) else CommandLine.readText a.load
    match CommandLine.calculator a fun _ => loaded with
    | .ok (.ok c) => CommandLine.perform a c
    | .ok (.error message) => CommandLine.complain message 1
    | .error fault => CommandLine.complain (CommandLine.wordingOf fault) 1
