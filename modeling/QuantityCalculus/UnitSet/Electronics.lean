/-
# Units of electronics

Mechanical and electrical units with their usual prefixes, amounts of information, and the
constants of physics.
-/

import QuantityCalculus.UnitSet.Common

namespace QuantityCalculus
namespace UnitSet

open Calculator

/-- The unit of frequency in base units. -/
def hertz : Units := units [("s", -1)]

/-- The unit of force in base units. -/
def newton : Units := units [("kg", 1), ("m", 1), ("s", -2)]

/-- The unit of pressure in base units. -/
def pascal : Units := units [("kg", 1), ("m", -1), ("s", -2)]

/-- The unit of energy in base units. -/
def joule : Units := units [("kg", 1), ("m", 2), ("s", -2)]

/-- The unit of power in base units. -/
def watt : Units := units [("kg", 1), ("m", 2), ("s", -3)]

/-- The unit of charge in base units. -/
def coulomb : Units := units [("A", 1), ("s", 1)]

/-- The unit of voltage in base units. -/
def volt : Units := units [("kg", 1), ("m", 2), ("s", -3), ("A", -1)]

/-- The unit of capacitance in base units. -/
def farad : Units := units [("A", 2), ("s", 4), ("kg", -1), ("m", -2)]

/-- The unit of resistance in base units. -/
def ohm : Units := units [("kg", 1), ("m", 2), ("s", -3), ("A", -2)]

/-- The unit of conductance in base units. -/
def siemens : Units := units [("A", 2), ("s", 3), ("kg", -1), ("m", -2)]

/-- The unit of magnetic flux in base units. -/
def weber : Units := units [("kg", 1), ("m", 2), ("s", -2), ("A", -1)]

/-- The unit of magnetic flux density in base units. -/
def tesla : Units := units [("kg", 1), ("s", -2), ("A", -1)]

/-- The unit of inductance in base units. -/
def henry : Units := units [("kg", 1), ("m", 2), ("s", -2), ("A", -2)]

/-- The base unit of information. -/
def bit : Units := .ofSymbol "bit"

/-- The named units with their dimensions and usual prefixes. -/
def namedUnits : List (String × Units × List String) := [
  ("Hz", hertz, ["", "k", "M", "G", "T"]),
  ("N", newton, ["m", "", "k"]),
  ("Pa", pascal, ["", "k", "M", "G"]),
  ("J", joule, ["p", "n", "u", "m", "", "k", "M", "G"]),
  ("W", watt, ["p", "n", "u", "m", "", "k", "M", "G"]),
  ("C", coulomb, ["p", "n", "u", "m", ""]),
  ("V", volt, ["n", "u", "m", "", "k", "M"]),
  ("F", farad, ["f", "p", "n", "u", "m", ""]),
  ("Ohm", ohm, ["u", "m", "", "k", "M"]),
  ("S", siemens, ["u", "m", ""]),
  ("Wb", weber, ["u", "m", ""]),
  ("T", tesla, ["n", "u", "m", ""]),
  ("H", henry, ["n", "u", "m", ""])]

/-- The constants with their units and what they are. -/
def physicalConstants : List (String × String × Units × String) := [
  ("q", "1.602176634e-19", coulomb, "Elementary charge."),
  ("eps0", "8.8541878128e-12", units [("A", 2), ("s", 4), ("kg", -1), ("m", -3)],
    "Vacuum permittivity."),
  ("mu0", "1.25663706212e-6", units [("kg", 1), ("m", 1), ("s", -2), ("A", -2)],
    "Vacuum permeability."),
  ("h", "6.62607015e-34", units [("kg", 1), ("m", 2), ("s", -1)], "Planck constant."),
  ("hbar", "1.054571817e-34", units [("kg", 1), ("m", 2), ("s", -1)],
    "Reduced Planck constant."),
  ("k", "1.380649e-23", units [("kg", 1), ("m", 2), ("s", -2), ("K", -1)], "Boltzmann constant."),
  ("NA", "6.02214076e23", units [("mol", -1)], "Avogadro constant."),
  ("G", "6.6743e-11", units [("m", 3), ("kg", -1), ("s", -2)], "Gravitational constant."),
  ("me", "9.1093837015e-31", kilogram, "Electron mass.")]

variable {α : Type} [Scalar α]

/-- Registers the units of electronics. -/
def electronicsUnits : Step α Unit := do
  namedUnits.forM fun (name, base, chosen) => do
    registerPrefixed name base chosen
    showAs (.ofSymbol name) base
  showAs (units [("V", 1), ("m", -1)]) (volt / metre)
  registerPrefixed "eV" joule ["m", "", "k", "M", "G"] "1.602176634e-19"
  registerBoth "bit" bit
  input "B" "8" bit
  ["k", "M", "G", "T"].forM fun p => registerPrefixed "B" bit [p] "8"
  [("Ki", 10), ("Mi", 20), ("Gi", 30)].forM fun (p, power) =>
    input (p ++ "B") (toString (8 * Nat.pow 2 power)) bit

/-- Registers the constants of physics. -/
def electronicsConstants : Step α Unit :=
  physicalConstants.forM fun (name, scalar, units, description) =>
    setConstant name (given scalar units) (some description)

end UnitSet
end QuantityCalculus
