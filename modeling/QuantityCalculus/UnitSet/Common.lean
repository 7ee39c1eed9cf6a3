/-
# Common units

Length, mass, time, current, temperature, amount, light, angle and volume with their usual
prefixes, the customary units, and the constants of mathematics and of light.
-/

import QuantityCalculus.Number.Elementary
import QuantityCalculus.UnitSet.Basic

namespace QuantityCalculus
namespace UnitSet

open Number Calculator

/-- The base unit of length. -/
def metre : Units := .ofSymbol "m"

/-- The base unit of mass. -/
def kilogram : Units := .ofSymbol "kg"

/-- The base unit of time. -/
def second : Units := .ofSymbol "s"

/-- The base unit of current. -/
def ampere : Units := .ofSymbol "A"

/-- The base unit of temperature. -/
def kelvin : Units := .ofSymbol "K"

/-- The base unit of amount. -/
def mole : Units := .ofSymbol "mol"

/-- The base unit of light. -/
def candela : Units := .ofSymbol "cd"

/-- The unit of speed in base units. -/
def speed : Units := units [("m", 1), ("s", -1)]

/-- The customary units, by the name they are registered under. -/
def customaryNames : List (String × String) := [
  ("inch", "inch"), ("ft", "foot"), ("yd", "yard"), ("mi", "mile"), ("nmi", "nautical_mile"),
  ("angstrom", "angstrom"), ("lb", "pound"), ("oz", "ounce"), ("week", "week"), ("year", "year"),
  ("gal", "gallon"), ("mph", "mile / hour"), ("knot", "knot")]

variable {α : Type} [Scalar α]

/-- Registers the common units. -/
def commonUnits : Step α Unit := do
  registerPrefixed "m" metre ["n", "u", "m", "c", "", "k"]
  showBase metre
  registerPrefixed "g" kilogram ["n", "u", "m", "", "k"] "1e-3"
  input "ton" "1e3" kilogram
  showBase kilogram
  registerPrefixed "s" second ["f", "p", "n", "u", "m", ""]
  input "min" "60" second
  input "hour" "3600" second
  input "day" "86400" second
  showBase second
  showBase speed
  registerPrefixed "A" ampere ["p", "n", "u", "m", "", "k"]
  showBase ampere
  registerPrefixed "K" kelvin ["m", ""]
  showBase kelvin
  registerPrefixed "mol" mole ["n", "u", "m", ""]
  showBase mole
  registerBoth "cd" candela
  registerBoth "rad" .radian
  input "deg" (natural (pi / 180.0)) .radian
  registerPrefixed "L" (metre.pow 3) ["u", "m", ""] "1e-3"
  customaryNames.forM fun u => discard <| registerCustomary u.1 u.2

/-- Registers the common constants. -/
def commonConstants : Step α Unit := do
  setConstant "pi" (quantityOf ⟨.real pi, .none⟩)
    (some "Ratio of a circle's circumference to its diameter.")
  setConstant "e" (quantityOf ⟨.real euler, .none⟩) (some "Euler's number.")
  setConstant "c" (given "299792458" speed) (some "Speed of light in vacuum.")

end UnitSet
end QuantityCalculus
