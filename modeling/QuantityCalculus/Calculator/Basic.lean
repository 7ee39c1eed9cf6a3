/-
# Calculators

A calculator holds settings, constants, variables, units and functions for a sequence of
evaluations. Input units are words with a value; an output unit is what results of one
dimension are shown in. Failures are remembered, the last fifty of them.

Operations are steps that may fail; what a step changed before it failed stays changed.
-/

import QuantityCalculus.Expr.Reader
import QuantityCalculus.Expr.Value
import QuantityCalculus.Journal

namespace QuantityCalculus

/-- A unit that results of the dimension `base` are shown in; `factor` is the value of one
`display` expressed in `base`. -/
structure OutputUnit (α : Type) where
  display : Units
  base : Units
  factor : α

/-- The state between evaluations. -/
structure Calculator (α : Type) where
  settings : Settings := {}
  constants : Scope α := .empty
  /-- the variables outside of any call -/
  globals : Scope α := .empty
  /-- the last results under answer variables that are no text; no expression can name one -/
  answers : List (Json × Variable α) := []
  inputUnits : Table String (Quantity α) := .empty
  /-- output units by the dimension they are for -/
  outputUnits : Table Units (OutputUnit α) := .empty
  functions : Functions := .empty
  builtins : List Builtin := []
  /-- failure messages, the oldest first -/
  diagnostics : List String := []
  /-- events since the journal was last taken, the newest first -/
  journal : List Event := []
  /-- the frames of the host that one evaluation may use -/
  room : Room := some 850

/-- A step of a calculator. -/
abbrev Step (α β : Type) := ExceptT Fault (StateM (Calculator α)) β

namespace Calculator

variable {α : Type}

/-- How many failures are remembered. -/
def remembered : Nat := 50

/-- A calculator without units; its settings have to be sound. -/
def create (settings : Settings) : Except SettingTrouble (Calculator α) := do
  settings.check
  return { settings }

/-- Adds the built-in functions of the scalar. -/
def withBuiltins [Scalar α] (c : Calculator α) : Calculator α :=
  { c with builtins := Builtin.ofKind (Scalar.kind α) }

/-- Remembers a failure. -/
def postDiagnostic (c : Calculator α) (message : String) : Calculator α :=
  let all := c.diagnostics ++ [message]
  { c with
    diagnostics := all.drop (all.length - remembered)
    journal := .evaluationFailed message :: c.journal }

/-- Records an event. -/
def record (c : Calculator α) (event : Event) : Calculator α :=
  { c with journal := event :: c.journal }

/-- The latest failure. -/
def diagnostic? (c : Calculator α) : Option String := c.diagnostics.getLast?

/-- Whether a word is an input unit. -/
def isUnit (c : Calculator α) (word : String) : Bool := c.inputUnits.contains word

/-- The value of an input unit. -/
def unit (c : Calculator α) (word : String) : Except CalcError (Quantity α) :=
  match c.inputUnits.get? word with
  | some q => .ok q
  | none => .error (.missing (.unit word))

/-- What an evaluation reads outside of any call. -/
def context (c : Calculator α) : Context α :=
  ⟨[c.constants], c.inputUnits, c.builtins, c.settings⟩

/-- The scopes of a calculator, the innermost first. -/
def scopes (c : Calculator α) : List (Scope α) := [c.globals, c.constants]

/-- Everything but the built-in functions and the settings is forgotten. -/
def clear (c : Calculator α) : Calculator α :=
  { c with
    globals := .empty, answers := [], constants := .empty, inputUnits := .empty
    outputUnits := .empty, functions := .empty, diagnostics := [] }

/-- The variables with their names, in the order in which they were first bound. -/
def namedVariables (c : Calculator α) : List (Json × Variable α) :=
  c.globals.toList.map (fun e => (.str e.1, e.2)) ++ c.answers

/-- How many entries there are of each kind, under the name of the scalar's kind. -/
def describe [Scalar α] (c : Calculator α) : List (String × Json) :=
  [("domain", .str (Scalar.kind α).name), ("variables", .int c.namedVariables.length),
    ("constants", .int c.constants.size), ("input_units", .int c.inputUnits.size),
    ("output_units", .int c.outputUnits.size), ("user_functions", .int c.functions.size),
    ("builtin_functions", .int c.builtins.length)]

/-- A calculator in few words. -/
def shown [Scalar α] (c : Calculator α) : String :=
  "Workspace(domain=" ++ Text.quoted (Scalar.kind α).name ++ ", units=" ++
    toString c.inputUnits.size ++ ")"

/-- Reads a text with the marks and input units of a calculator. -/
def read (c : Calculator α) (text : String) : Except Fault Expr := do
  let marks ← c.settings.marks
  (Expr.read marks c.isUnit text).mapError fun e => .error (.text e)

/-- The value of an expression. Its assignments go to the variables, its definitions to the
functions. -/
def valueOf [Scalar α] (e : Expr) : Step α (Quantity α) := do
  let c ← get
  let (result, after) := (Expr.evaluate c.context c.room e).run.run ⟨c.globals, c.functions⟩
  set { c with globals := after.scope, functions := after.functions }
  result

/-- A quantity in the output unit of its dimension, if there is one. -/
def inOutputUnit? [Scalar α] (c : Calculator α) (q : Quantity α) :
    Except Invalid (Option (Quantity α)) :=
  if q.isPure then .ok none
  else match c.outputUnits.get? q.units with
    | none => .ok none
    | some unit => do return some ⟨← Scalar.div q.scalar unit.factor, unit.display⟩

end Calculator
end QuantityCalculus
