/-
# Outcomes of evaluations

Evaluating a text never fails as a step of a calculator: what is wrong with the text or its
value becomes a failed outcome, and its message is the latest diagnostic. A result in base
units may be shown in an output unit, or in the unit that the expression asks for; the
answer variable takes the result in base units.
-/

import QuantityCalculus.Calculator.Basic
import QuantityCalculus.Quantity.Precision

namespace QuantityCalculus

/-- What came of an evaluation: a result in base units and what is shown in its place, if
it is not shown itself; or the message of a failure. -/
inductive Outcome (α : Type) where
  | success (base : Quantity α) (shown : Option (Quantity α))
  | failure (message : String)

namespace Outcome

variable {α : Type}

/-- Whether there is a result. -/
def succeeded : Outcome α → Bool
  | success .. => true
  | failure _ => false

/-- The result in base units. -/
def base? : Outcome α → Option (Quantity α)
  | success base _ => some base
  | failure _ => none

/-- Why there is no result. -/
def message? : Outcome α → Option String
  | success .. => none
  | failure m => some m

variable [Scalar α]

/-- What is shown; zero for a failure. -/
def quantity : Outcome α → Quantity α
  | success base shown => shown.getD base
  | failure _ => .zero

/-- The result in base units where it differs from what is shown. -/
def distinctBase? : Outcome α → Option (Quantity α)
  | success base (some shown) => if base.eq shown then none else some base
  | _ => none

/-- An outcome for a reader: what was asked, what is shown, and what is behind it. -/
def describe (o : Outcome α) (expression : String) (precision : Nat) : Json :=
  let q := o.quantity
  let described : List (String × Json) :=
    [("expression", .str expression), ("success", .bool o.succeeded),
      ("value", Scalar.toJson q.scalar), ("unit", .str q.units.text),
      ("display", .str (q.text precision)), ("message", .ofText? o.message?)]
  match o.distinctBase? with
  | none => .obj described
  | some base => .obj (described ++
      [("base", .obj [("value", Scalar.toJson base.scalar), ("unit", .str base.units.text)])])

/-- An outcome for a reader who asks for a count of digits. -/
def describeFor (o : Outcome α) (expression : String) (asked : Json) : Except Misuse Json := do
  return o.describe expression (← o.quantity.precisionFor asked)

/-- The digits that results are shown with. -/
def defaultPrecision : Nat := 12

end Outcome

namespace Calculator

variable {α : Type} [Scalar α]

/-- A failed outcome, remembered. -/
def fail (message : String) : Step α (Outcome α) := do
  modify (·.postDiagnostic message)
  return .failure message

/-- The result of a conversion at the top of an expression: the value itself, shown in the
unit as it was written. -/
def convert (value target : Expr) : Step α (Outcome α) := do
  let x ← valueOf value
  let y ← valueOf target
  return .success x (some ⟨← Quantity.ratio .base x y, .ofSymbol target.content⟩)

/-- The result of an expression, shown in an output unit if the settings say so. -/
def result (e : Expr) : Step α (Outcome α) := do
  let base ← valueOf e
  let c ← get
  if c.settings.showsOutputUnits then return .success base (← c.inOutputUnit? base)
  else return .success base none

/-- The outcome of an expression; calculation errors and too deep nesting are failures. -/
def resolve (e : Expr) : Step α (Outcome α) :=
  let attempt : Step α (Outcome α) :=
    match e.strippedConversion?, e.conversion? with
    | none, some (value, target) => convert value target
    | _, _ => result e
  tryCatch attempt fun fault =>
    match fault with
    | .error cause => fail cause.message
    | .stackExhausted => fail SyntaxError.tooDeep.message
    | other => throw other

/-- Binds a value that is no text, in its place if an equal one is bound. -/
def bindAnswer (name : Json) (v : Variable α) : List (Json × Variable α) → List (Json × Variable α)
  | [] => [(name, v)]
  | (n, w) :: rest => if n.same name then (n, v) :: rest else (n, w) :: bindAnswer name v rest

/-- Gives the answer variable a value. Lists and objects cannot be variables. -/
def keepAnswer (result : Quantity α) : Step α Unit := do
  let c ← get
  match c.settings.answerVariable with
  | .str name => set { c with globals := c.globals.insert name ⟨result, none⟩ }
  | .arr _ | .obj _ => throw (.wrongType "the answer variable must be a name")
  | name => set { c with answers := bindAnswer name ⟨result, none⟩ c.answers }

/-- The outcome of a text. A result goes to the answer variable, unless the text defines a
function. -/
def evaluate (text : String) : Step α (Outcome α) := do
  let c ← get
  match c.read text with
  | .error (.error (.text e)) => fail e.message
  | .error fault => throw fault
  | .ok e =>
    let outcome ← resolve e
    match outcome with
    | .failure _ => return outcome
    | .success base _ =>
      if (← get).settings.answerVariable.isPresent && !e.definesFunction then keepAnswer base
      return outcome

end Calculator
end QuantityCalculus
