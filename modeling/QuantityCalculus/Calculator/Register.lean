/-
# Registrations

Variables, constants, units and functions enter a calculator under valid names. A scalar is
given as a number or as the text of an expression without units; such a text is evaluated
like any other, so it may refer to variables and may even assign them.

An output unit is kept under the dimension it is for. It needs a dimension and a factor
other than zero.
-/

import QuantityCalculus.Calculator.Basic

namespace QuantityCalculus

/-- A scalar as it is given to a registration. -/
inductive GivenScalar where
  | int (n : Int)
  | real (x : Float)
  | complex (z : Complex)
  | text (s : String)

/-- A quantity as it is given to a registration. -/
structure Given where
  scalar : GivenScalar
  units : Units

namespace Calculator

variable {α : Type} [Scalar α]

/-- The value of a text that contains no unit words. -/
def valueOfText (text : String) : Step α α := do
  let e ← (Expr.read .standard (fun _ => false) text).mapError fun e => Fault.error (.text e)
  let q ← valueOf e
  unless q.isPure do throw (.error (.units (.scalarText text)))
  return q.scalar

/-- A given scalar as a scalar of the calculator. -/
def scalarOf : GivenScalar → Step α α
  | .int n =>
    match Number.ofInt? n with
    | some x => return Scalar.ofReal x
    | none => throw .overflow
  | .real x => return Scalar.ofReal x
  | .complex z => do return ← Scalar.ofComplex z
  | .text s => valueOfText s

/-- A given quantity as a quantity of the calculator. -/
def quantityOf (g : Given) : Step α (Quantity α) := do return ⟨← scalarOf g.scalar, g.units⟩

/-- A name has to be valid for its role. -/
def checkName (name : String) (role : NameRole) : Step α Unit := do
  Name.check name role

/-- Binds a variable. -/
def setVariable (name : String) (value : Step α (Quantity α)) (description : Option String) :
    Step α Unit := do
  checkName name .variable
  let q ← value
  modify fun c => { c with globals := c.globals.insert name ⟨q, description⟩ }

/-- Binds a constant. -/
def setConstant (name : String) (value : Step α (Quantity α)) (description : Option String) :
    Step α Unit := do
  checkName name .constant
  let q ← value
  modify fun c => { c with constants := c.constants.insert name ⟨q, description⟩ }

/-- Registers an input unit. -/
def registerInputUnit (name : String) (value : Step α (Quantity α)) : Step α (Quantity α) := do
  checkName name .unit
  let q ← value
  modify fun c =>
    let c := if c.isUnit name then c.record (.unitReplaced name) else c
    { c with inputUnits := c.inputUnits.insert name q }
  return q

/-- Registers an output unit, in place of any other for its dimension. -/
def registerOutputUnit (display : Units) (value : Step α (Quantity α)) :
    Step α (OutputUnit α) := do
  let q ← value
  if q.isPure then throw (.error (.invalid .outputDimension))
  if !q.isTrue then throw (.error (.invalid .outputZero))
  let unit : OutputUnit α := ⟨display, q.units, q.scalar⟩
  modify fun c =>
    let c := match c.outputUnits.get? q.units with
      | some previous =>
        if previous.display = display then c
        else c.record (.outputReplaced display previous.display q.units)
      | none => c
    { c with outputUnits := c.outputUnits.insert q.units unit }
  return unit

/-- The value of the text of a definition. -/
def valueOfDefinition (text : String) : Step α (Quantity α) := do
  valueOf (← (← get).read text)

/-- Registers an input unit from the text of its value. -/
def defineInputUnit (name text : String) : Step α (Quantity α) := do
  let q ← valueOfDefinition text
  registerInputUnit name (pure q)

/-- Registers an output unit from the text of its value. -/
def defineOutputUnit (display : Units) (text : String) : Step α (OutputUnit α) := do
  let q ← valueOfDefinition text
  registerOutputUnit display (pure q)

/-- A parameter from a value; lists and objects cannot be parameters. -/
def parameterOf : Json → Except Fault Parameter
  | .str s => .ok (.name s)
  | .arr _ => .error (.wrongType "a list cannot be a parameter")
  | .obj _ => .error (.wrongType "an object cannot be a parameter")
  | v => .ok (.value v)

/-- Parameters from a list of values, the characters of a text or the names of members. -/
def parametersOf : Json → Except Fault (List Parameter)
  | .str s => .ok (s.toList.map fun c => .name c.toString)
  | .arr items => items.mapM parameterOf
  | .obj members => .ok (members.map fun m => .name m.1)
  | _ => .error (.wrongType "the parameters must be a list")

/-- A name from a value; what is no text is no name. -/
def nameOf (name : Json) (role : NameRole) : Except Invalid String :=
  match name with
  | .str s => do
    Name.check s role
    return s
  | v => .error (.name v.plain role)

/-- Registers a function from the text of its body. -/
def registerFunction (name parameters : Json) (body : String) : Step α Function := do
  let name ← nameOf name .function
  let parameters ← parametersOf parameters
  Function.check name parameters
  let e ← (← get).read body
  let f : Function := ⟨name, parameters, e, Text.trimmed body⟩
  modify fun c => { c with functions := c.functions.define f }
  return f

/-- Removes a variable; tells whether there was one. -/
def removeVariable (name : String) : Step α Bool :=
  modifyGet fun c => (c.globals.contains name, { c with globals := c.globals.erase name })

/-- Removes a constant; tells whether there was one. -/
def removeConstant (name : String) : Step α Bool :=
  modifyGet fun c => (c.constants.contains name, { c with constants := c.constants.erase name })

/-- Removes all variables. -/
def clearVariables : Step α Unit := modify fun c => { c with globals := .empty, answers := [] }

/-- Removes an input unit; tells whether there was one. -/
def removeInputUnit (name : String) : Step α Bool :=
  modifyGet fun c =>
    (c.inputUnits.contains name, { c with inputUnits := c.inputUnits.erase name })

/-- Removes the output unit of a dimension; tells whether there was one. -/
def removeOutputUnit (base : Units) : Step α Bool :=
  modifyGet fun c =>
    (c.outputUnits.contains base, { c with outputUnits := c.outputUnits.erase base })

/-- Removes a function; tells whether there was one. -/
def removeFunction (name : String) (arity : Nat) : Step α Bool :=
  modifyGet fun c =>
    (c.functions.contains (name, arity), { c with functions := c.functions.erase (name, arity) })

/-- The variable or constant of a name. -/
def binding? (c : Calculator α) (name : String) : Option (Variable α) :=
  lookupScopes c.scopes name

end Calculator
end QuantityCalculus
