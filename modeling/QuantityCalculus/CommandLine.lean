/-
# The command line

A command line builds a calculator or loads one, has it evaluate expressions or lists its
units, and saves it when it is done. What it prints is text, or JSON for other programs.

What was printed before a fault is lost with it, because the fault is all that remains.
-/

import QuantityCalculus.CommandLine.Arguments
import QuantityCalculus.CommandLine.Files
import QuantityCalculus.Service.Listing
import QuantityCalculus.Snapshot

namespace QuantityCalculus
namespace CommandLine

/-- How a run ends. -/
inductive Ending where
  | status (code : Nat)
  /-- the words are no arguments -/
  | refused (code : Nat)
  /-- a message in place of a status -/
  | stopped (message : String)
deriving Repr, DecidableEq

/-- What a run leaves. -/
structure Transcript where
  output : String
  ending : Ending
  /-- the file that is left behind and its text -/
  saved : Option (String × String) := none

/-- The end of a run whose words are no arguments or ask for help. -/
def refused : Arguments.Refusal → Transcript
  | .usage => ⟨"", .refused 2, none⟩
  | .help => ⟨"", .refused 0, none⟩

/-- A new calculator; what the arguments leave open is real scalars and common units. -/
def fresh (a : Arguments) : Except Fault AnyCalculator := do
  let settings : Settings := { answerVariable := .str a.answer }
  let sets := if a.unitSets.isEmpty then [.common] else a.unitSets
  let names := sets.map UnitSet.name
  match a.kind.getD .real with
  | .real => return .real (← UnitSet.build settings names)
  | .complex => return .complex (← UnitSet.build settings names)

/-- The wording for options that a loaded calculator leaves no room for. -/
def loadsAlone : String :=
  "--load cannot be combined with --domain or --unit-set; the snapshot sets both."

/-- The calculator to start from, or a message that there is none. -/
def calculator (a : Arguments) (files : String → Except FileTrouble String) :
    Except Fault (Except String AnyCalculator) :=
  if a.load = "" then
    match fresh a with
    | .ok c => .ok (.ok c)
    | .error (.misuse cause) => .ok (.error cause.message)
    | .error fault => .error fault
  else if a.kind.isSome ∨ a.unitSets ≠ [] then .ok (.error loadsAlone)
  else match files a.load with
    | .error .zeroCharacter => .error (.misuse (.stated FileTrouble.zeroCharacter.message))
    | .error trouble => .ok (.error ("Cannot read " ++ a.load ++ ": " ++ trouble.message))
    | .ok text =>
      match Snapshot.read text with
      | .ok c => .ok (.ok c)
      | .error (.error (.snapshot cause)) =>
        .ok (.error ("Cannot load " ++ a.load ++ ": " ++ cause.message))
      | .error fault => .error fault

/-- Evaluates a text and prints the outcome on a line; tells whether there is a result. -/
def report (json : Bool) (text : String) {α : Type} [Scalar α] : Step α (String × Bool) := do
  let o : Outcome α ← Calculator.evaluate text
  let line :=
    if json then (o.describe text Outcome.defaultPrecision).write { sorted := true }
    else match o.message? with
      | none => o.quantity.text Outcome.defaultPrecision
      | some message => "error: " ++ message
  return (line ++ "\n", o.succeeded)

/-- Evaluates expressions in turn; tells whether all have a result. -/
def reportAll (json : Bool) : List String → {α : Type} → [Scalar α] → Step α (String × Bool)
  | [], _, _ => return ("", true)
  | text :: rest, _, _ => do
    let (line, good) ← report json text
    let (lines, allGood) ← reportAll json rest
    return (line ++ lines, good && allGood)

/-- What a line of input asks for. -/
inductive Line where
  | nothing
  | leave
  | expression (text : String)
deriving Repr, DecidableEq

/-- What a line of input asks for. -/
def Line.read (line : String) : Line :=
  let text := Text.trimmed line
  if text = "" then .nothing
  else if text = "exit" ∨ text = "quit" then .leave
  else .expression text

/-- The lines of an input; what follows the last line break is a line unless it is empty. -/
def linesOf (input : String) : List String :=
  let lines := input.splitOn "\n"
  if lines.getLast? = some "" then lines.dropLast else lines

/-- What is printed before a line is read from someone who waits for it. -/
def promptFor (interactive : Bool) : String := if interactive then "> " else ""

/-- What is printed after a line, unless the line leaves. -/
def answerLine (json : Bool) (line : String) {α : Type} [Scalar α] : Step α (Option String) := do
  match Line.read line with
  | .leave => return none
  | .nothing => return some ""
  | .expression text =>
    let (printed, _) ← report json text
    return some printed

/-- Evaluates lines until one leaves or there are no more. -/
def converse (json interactive : Bool) :
    List String → {α : Type} → [Scalar α] → Step α String
  | [], _, _ => return promptFor interactive
  | line :: rest, _, _ => do
    match ← answerLine json line with
    | none => return promptFor interactive
    | some printed =>
      return promptFor interactive ++ printed ++ (← converse json interactive rest)

/-- A text with blanks before it, up to a width. -/
def rightAligned (width : Nat) (s : String) : String :=
  String.ofList (List.replicate (width - s.length) ' ') ++ s

/-- The input units with what they stand for. -/
def unitLines {α : Type} [Scalar α] (c : Calculator α) : String :=
  String.join ((Listing.inputUnits c).map fun e =>
    rightAligned 10 e.1 ++ "  " ++ e.2.text Outcome.defaultPrecision ++ "\n")

/-- Everything about the units of a calculator, for other programs. -/
def unitsJson {α : Type} [Scalar α] (c : Calculator α) : Json :=
  .obj [("domains", .arr (ScalarKind.all.map fun k => .str k.name)),
    ("unit_sets", .arr (UnitSet.all.map fun s => .str s.name)),
    ("input_units", .obj ((Listing.inputUnits c).map fun e => (e.1, .obj (Listing.factorOf e.2)))),
    ("output_units", .obj (c.outputUnits.values.foldl
      (fun done u => Json.put u.base.text (.str u.display.text) done) []))]

/-- The units of a calculator as text or as JSON. -/
def listUnits (json : Bool) {α : Type} [Scalar α] (c : Calculator α) : String :=
  if json then (unitsJson c).write { indent := some "  ", sorted := true } ++ "\n" else unitLines c

/-- The file that a run leaves behind. -/
def savedFile (a : Arguments) (c : AnyCalculator) : Option (String × String) :=
  if a.save = "" then none
  else some (a.save, c.get fun c => Snapshot.write c { indent := some "  " })

/-- Runs a command on a calculator. Expressions without a result make the status one. -/
def execute (a : Arguments) (input : List String) (interactive : Bool) (c : AnyCalculator) :
    Except Fault Transcript := do
  match a.command with
  | .evaluate texts =>
    let (result, after) := c.run (reportAll a.json texts)
    let (output, good) ← result
    return ⟨output, .status (if good then 0 else 1), savedFile a after⟩
  | .converse =>
    let (result, after) := c.run (converse a.json interactive input)
    return ⟨← result, .status 0, savedFile a after⟩
  | .listUnits => return ⟨c.get fun c => listUnits a.json c, .status 0, none⟩

/-- Runs a command line on the lines of its input and the files it can read. -/
def run (words : List String) (files : String → Except FileTrouble String)
    (input : List String) (interactive : Bool) : Except Fault Transcript := do
  match Arguments.read words with
  | .error refusal => return refused refusal
  | .ok a =>
    match ← calculator a files with
    | .ok c => execute a input interactive c
    | .error message => return ⟨"", .stopped message, none⟩

end CommandLine
end QuantityCalculus
