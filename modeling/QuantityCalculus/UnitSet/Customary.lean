/-
# Customary units

Units in everyday use are known by an expression and have a measured value in base units.
The value is kept as text, so that it can be registered for scalars of any kind.
-/

import QuantityCalculus.Error
import QuantityCalculus.Units.Basic

namespace QuantityCalculus
namespace Customary

/-- The value of a unit: a number in base units. -/
structure Value where
  scalar : String
  units : Units

/-- A value in base units with integer exponents. -/
def value (scalar : String) (factors : List (String × Int)) : Value :=
  ⟨scalar, Units.ofList (factors.map fun f => (f.1, (f.2 : Rat)))⟩

/-- The units that have a value. -/
def known : List (String × Value) := [
  ("inch", value "0.0254" [("m", 1)]),
  ("foot", value "0.30479999999999996" [("m", 1)]),
  ("yard", value "0.9144" [("m", 1)]),
  ("mile", value "1609.344" [("m", 1)]),
  ("nautical_mile", value "1852.0" [("m", 1)]),
  ("angstrom", value "1e-10" [("m", 1)]),
  ("pound", value "0.4535923700000001" [("kg", 1)]),
  ("ounce", value "0.028349523125000005" [("kg", 1)]),
  ("week", value "604800.0" [("s", 1)]),
  ("year", value "31557600.0" [("s", 1)]),
  ("gallon", value "0.0037854117839999993" [("m", 3)]),
  ("mile / hour", value "0.44704" [("m", 1), ("s", -1)]),
  ("knot", value "0.5144444444444445" [("m", 1), ("s", -1)]),
  ("meter", value "1.0" [("m", 1)]),
  ("kilometer", value "1000.0" [("m", 1)]),
  ("second", value "1.0" [("s", 1)]),
  ("ampere", value "1.0" [("A", 1)]),
  ("kelvin", value "1.0" [("K", 1)]),
  ("mole", value "1.0" [("mol", 1)]),
  ("candela", value "1.0" [("cd", 1)]),
  ("kilogram", value "1.0" [("kg", 1)]),
  ("newton", value "1.0" [("kg", 1), ("m", 1), ("s", -2)]),
  ("meter ** 0.5", ⟨"1.0", Units.ofList [("m", 1 / 2)]⟩),
  ("1 / second", value "1.0" [("s", -1)]),
  ("5", value "5.0" []),
  ("2.5", value "2.5" []),
  ("bit", value "1.0" []),
  ("1000 meter", value "1000.0" [("m", 1)]),
  ("kilogram * meter ** 2 / second ** 3 / ampere",
    value "1.0" [("A", -1), ("kg", 1), ("m", 2), ("s", -3)])]

/-- Units whose dimension has no base unit, with that dimension. -/
def withoutBase : List (String × String) := [("pixel", "[printing_unit]")]

/-- The value of a unit in base units. -/
def find (expression : String) : Except Missing Value :=
  match known.find? fun u => u.1 = expression with
  | some u => .ok u.2
  | none =>
    match withoutBase.find? fun u => u.1 = expression with
    | some u => .error (.baseUnit u.2 expression)
    | none => .error (.customaryUnit expression)

end Customary
end QuantityCalculus
