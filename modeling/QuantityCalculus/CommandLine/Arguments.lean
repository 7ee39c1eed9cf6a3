/-
# Arguments

The words of a command line are options, then a command, then what the command takes. A
word is an option by its full name, by a beginning that no other name shares, or with its
value after an equals sign. A word that starts with a dash is no option if it is a single
dash, a number, or holds a space; after a double dash no word is.

**Main statement.** A word without a dash in front is never an option (`classify_of_ne_dash`).
-/

import QuantityCalculus.UnitSet

namespace QuantityCalculus

/-- What the words ask to be done. -/
inductive Command where
  /-- evaluate some expressions in turn -/
  | evaluate (texts : List String)
  /-- evaluate the lines of the input -/
  | converse
  /-- list the input units -/
  | listUnits

/-- What a command line says. -/
structure Arguments where
  command : Command
  kind : Option ScalarKind := none
  unitSets : List UnitSet := []
  /-- the variable that takes results -/
  answer : String := "ans"
  /-- the file to start from; none when empty -/
  load : String := ""
  /-- the file to leave behind; none when empty -/
  save : String := ""
  json : Bool := false

namespace Arguments

/-- Why words are no arguments: they are wrong, or they ask for help. -/
inductive Refusal where
  | usage
  | help
deriving Repr, DecidableEq

/-- The options. -/
inductive Flag where
  | help
  | kind
  | unitSet
  | answer
  | load
  | save
  | json
deriving Repr, DecidableEq

/-- The names of the option that asks for help. -/
def helpNames : List (String × Flag) := [("-h", .help), ("--help", .help)]

/-- The names of all options. -/
def names : List (String × Flag) :=
  helpNames ++ [("--domain", .kind), ("--unit-set", .unitSet), ("--answer", .answer),
    ("--load", .load), ("--save", .save), ("--json", .json)]

/-- What a word is. -/
inductive WordClass where
  | value
  /-- the double dash after which all words are values -/
  | divider
  /-- an option, perhaps with text attached; `bundled` if the text follows a letter directly -/
  | option (flag : Flag) (attached : Option String) (bundled : Bool)
  /-- the beginning of several options -/
  | ambiguous
  | unknown
deriving Repr, DecidableEq

/-- Whether characters are digits, or a point with digits after it and perhaps before it;
one line break may follow. -/
def isNumber (cs : List Char) : Bool :=
  let ends (rest : List Char) : Bool := rest == [] || rest == ['\n']
  match cs.dropWhile Text.isDigit with
  | '.' :: rest =>
    !(rest.takeWhile Text.isDigit).isEmpty && ends (rest.dropWhile Text.isDigit)
  | rest => !(cs.takeWhile Text.isDigit).isEmpty && ends rest

/-- The parts of a word before and after its first equals sign, if it has one. -/
def splitAtEquals (w : String) : String × Option String :=
  let cs := w.toList
  match cs.dropWhile fun c => c ≠ '=' with
  | [] => (w, none)
  | _ :: rest => (String.ofList (cs.takeWhile fun c => c ≠ '='), some (String.ofList rest))

/-- The options whose names a word with two dashes begins. -/
def begun (names : List (String × Flag)) (w : String) : List WordClass :=
  let (name, attached) := splitAtEquals w
  (names.filter fun n => name.toList.isPrefixOf n.1.toList).map fun n =>
    .option n.2 attached false

/-- The option whose name of one dash and one letter begins a word. -/
def bundled (names : List (String × Flag)) (w : String) : List WordClass :=
  (names.filter fun n => n.1.toList = w.toList.take 2).map fun n =>
    .option n.2 (some (String.ofList (w.toList.drop 2))) true

/-- What a word that starts with a dash is, if it is none of the names of options. -/
def classifyDashed (names : List (String × Flag)) (w : String) : WordClass :=
  let candidates := if "--".toList.isPrefixOf w.toList then begun names w else bundled names w
  match candidates with
  | [c] => c
  | _ :: _ => .ambiguous
  | [] =>
    if isNumber (w.toList.drop 1) then .value
    else if w.toList.contains ' ' then .value
    else .unknown

/-- What a word is. -/
def classify (names : List (String × Flag)) (w : String) : WordClass :=
  let named (name : String) (attached : Option String) : Option WordClass :=
    (names.find? fun n => n.1 = name).map fun n =>
      .option n.2 attached false
  match w.toList with
  | '-' :: rest =>
    if w = "--" then .divider
    else match named w none with
      | some c => c
      | none =>
        if rest.isEmpty then .value
        else match splitAtEquals w with
          | (name, some value) => (named name (some value)).getD (classifyDashed names w)
          | (_, none) => classifyDashed names w
  | _ => .value

/-- A word that starts with another character than a dash is a value. -/
theorem classify_of_ne_dash {names : List (String × Flag)} {w : String} {c : Char}
    {rest : List Char} (h : w.toList = c :: rest) (hc : c ≠ '-') :
    classify names w = .value := by
  unfold classify
  rw [h]
  split
  · simp_all
  · rfl

/-- Words with what each of them is; after the first divider all are values. -/
def classifyAll (names : List (String × Flag)) : List String → List (String × WordClass)
  | [] => []
  | w :: ws =>
    match classify names w with
    | .divider => (w, .divider) :: ws.map fun v => (v, .value)
    | c => (w, c) :: classifyAll names ws

/-- The answer to a letter that asks for help and the letters bundled with it: the same letter
may be repeated, and help is given before a letter without a meaning is complained about. -/
def helpBundled : List Char → Refusal
  | '-' :: _ => .usage
  | 'h' :: '=' :: _ => .usage
  | 'h' :: rest => helpBundled rest
  | _ => .help

/-- The answer to an option that asks for help: help, unless a value is attached to it. -/
def helpWith (attached : Option String) (bundled : Bool) : Refusal :=
  match attached with
  | none => .help
  | some s => if bundled then helpBundled s.toList else .usage

/-- The first option for help among words. -/
def helpIn (ws : List (String × WordClass)) : Option Refusal :=
  ws.findSome? fun w =>
    match w.2 with
    | .option .help attached bundled => some (helpWith attached bundled)
    | _ => none

/-- Whether a word is a value or a divider. -/
def isPlain : WordClass → Bool
  | .value | .divider => true
  | _ => false

/-- The values among words that hold no option, without the first divider. -/
def plainValues (ws : List (String × WordClass)) : Except Refusal (List String) :=
  match helpIn ws with
  | some refusal => .error refusal
  | none =>
    if ws.all fun w => isPlain w.2 then
      .ok ((ws.filter fun w => w.2 ≠ .divider).map Prod.fst)
    else .error .usage

/-- The command of a name, with the words that follow it. -/
def readCommand (name : String) (words : List String) : Except Refusal Command := do
  let ws := classifyAll helpNames words
  let command ← match name with
    | "eval" => pure (Command.evaluate (← plainValues ws))
    | "repl" => pure .converse
    | "units" => pure .listUnits
    | _ => throw .usage
  match command with
  | .evaluate [] => throw .usage
  | .evaluate texts => return .evaluate texts
  | other =>
    discard (plainValues ws)
    if ws.isEmpty then return other else throw .usage

/-- What the options before a command say. -/
structure Options where
  kind : Option ScalarKind := none
  unitSets : List UnitSet := []
  answer : String := "ans"
  load : String := ""
  save : String := ""
  json : Bool := false

/-- Gives an option its value. -/
def Options.set (o : Options) (flag : Flag) (value : String) : Except Refusal Options :=
  match flag with
  | .kind =>
    match ScalarKind.all.find? fun k => k.name = value with
    | some k => .ok { o with kind := some k }
    | none => .error .usage
  | .unitSet =>
    match UnitSet.ofName? value with
    | some s => .ok { o with unitSets := o.unitSets ++ [s] }
    | none => .error .usage
  | .answer => .ok { o with answer := value }
  | .load => .ok { o with load := value }
  | .save => .ok { o with save := value }
  | .help | .json => .error .usage

/-- The arguments with a command. -/
def Options.toArguments (o : Options) (command : Command) : Arguments :=
  ⟨command, o.kind, o.unitSets, o.answer, o.load, o.save, o.json⟩

/-- Reads options up to a command. `sound` tells whether all words were known so far. -/
def readWords (o : Options) (sound : Bool) : List (String × WordClass) → Except Refusal Arguments
  | [] => .error .usage
  | (_, .unknown) :: ws => readWords o false ws
  | (_, .ambiguous) :: _ | (_, .divider) :: _ => .error .usage
  | (name, .value) :: ws => do
    let command ← readCommand name (ws.map Prod.fst)
    if sound then return o.toArguments command else throw .usage
  | (_, .option .help attached bundled) :: _ => .error (helpWith attached bundled)
  | (_, .option .json none _) :: ws => readWords { o with json := true } sound ws
  | (_, .option .json (some _) _) :: _ => .error .usage
  | (_, .option flag (some value) _) :: ws => do readWords (← o.set flag value) sound ws
  | (_, .option flag none _) :: (value, .value) :: ws => do
    readWords (← o.set flag value) sound ws
  | (_, .option _ none _) :: _ => .error .usage

/-- The arguments that words stand for. -/
def read (words : List String) : Except Refusal Arguments :=
  let ws := classifyAll names words
  if ws.any fun w => w.2 = .ambiguous then .error .usage else readWords {} true ws

end Arguments
end QuantityCalculus
