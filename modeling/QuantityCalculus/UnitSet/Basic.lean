/-
# Registering families of units

A unit is registered under its name with each of several prefixes; the value of a prefixed
unit is the product of prefix and value in decimal numbers, so that no binary rounding
enters before the text is read.
-/

import QuantityCalculus.Calculator.Register
import QuantityCalculus.Number.Scientific
import QuantityCalculus.UnitSet.Customary

namespace QuantityCalculus
namespace UnitSet

open Number Calculator

/-- The prefixes of decimal multiples, with the numbers they stand for. -/
def prefixes : List (String × String) := [
  ("a", "1e-18"), ("f", "1e-15"), ("p", "1e-12"), ("n", "1e-9"), ("u", "1e-6"), ("m", "1e-3"),
  ("c", "1e-2"), ("", "1"), ("k", "1e3"), ("M", "1e6"), ("G", "1e9"), ("T", "1e12"),
  ("P", "1e15")]

/-- The product of two decimal numbers as text. -/
def scaled (multiple factor : String) : Except Fault String :=
  match Scientific.read? multiple, Scientific.read? factor with
  | some a, some b =>
    match a.mul b with
    | .ok product => .ok product.text
    | .error .malformed => .error .malformedDecimal
    | .error .overflow => .error .decimalOverflow
  | _, _ => .error .malformedDecimal

variable {α : Type} [Scalar α]

/-- A value given as text, in a unit. -/
def given (scalar : String) (units : Units) : Step α (Quantity α) :=
  quantityOf ⟨.text scalar, units⟩

/-- Registers a name with each of the prefixes; `factor` is the value of one unit without
prefix in base units. -/
def registerPrefixed (name : String) (base : Units) (chosen : List String)
    (factor : String := "1") : Step α Unit :=
  chosen.forM fun p => do
    match prefixes.find? fun entry => entry.1 = p with
    | none => throw .unknownKey
    | some (_, multiple) =>
      let text ← scaled multiple factor
      discard <| registerInputUnit (p ++ name) (given text base)

/-- Registers a name for input and as the output unit of its dimension. -/
def registerBoth (name : String) (base : Units) (factor : String := "1") : Step α Unit := do
  discard <| registerInputUnit name (given factor base)
  discard <| registerOutputUnit (.ofSymbol name) (given factor base)

/-- Registers a name for a customary unit. -/
def registerCustomary (name expression : String) : Step α (Quantity α) := do
  let u ← (Customary.find expression).mapError fun e => Fault.error (.missing e)
  registerInputUnit name (given u.scalar u.units)

/-- Registers an input unit. -/
def input (name scalar : String) (units : Units) : Step α Unit :=
  discard <| registerInputUnit name (given scalar units)

/-- Shows a dimension in its own base units. -/
def showBase (units : Units) : Step α Unit :=
  discard <| registerOutputUnit units (given "1" units)

/-- Shows a dimension in a named unit of value one. -/
def showAs (display : Units) (units : Units) : Step α Unit :=
  discard <| registerOutputUnit display (given "1" units)

/-- A unit with integer exponents. -/
def units (factors : List (String × Int)) : Units :=
  .ofList (factors.map fun f => (f.1, (f.2 : Rat)))

end UnitSet
end QuantityCalculus
