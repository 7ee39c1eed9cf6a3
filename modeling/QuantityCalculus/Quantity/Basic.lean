/-
# Quantities

A quantity is a scalar with the unit it is measured in.
-/

import QuantityCalculus.Scalar.Basic
import QuantityCalculus.Units.Text

namespace QuantityCalculus

/-- A scalar and its unit. -/
structure Quantity (α : Type) where
  scalar : α
  units : Units

namespace Quantity

variable {α : Type}

/-- A scalar without a unit. -/
def pure (x : α) : Quantity α := ⟨x, .none⟩

/-- Whether there is no unit. -/
def isPure (a : Quantity α) : Bool := a.units.isNone

/-- The same scalar in another unit. -/
def withUnits (a : Quantity α) (u : Units) : Quantity α := ⟨a.scalar, u⟩

/-- Another scalar in the same unit. -/
def withScalar (a : Quantity α) (x : α) : Quantity α := ⟨x, a.units⟩

variable [Scalar α]

/-- Whether scalar and unit are equal; a NaN makes a quantity differ from itself. -/
def eq (a b : Quantity α) : Bool := Scalar.eq a.scalar b.scalar && decide (a.units = b.units)

/-- Zero without a unit, the value of everything that has no other. -/
def zero : Quantity α := pure Scalar.zero

/-- A truth value: one or zero without a unit. -/
def ofBool (b : Bool) : Quantity α := pure (Scalar.ofBool b)

/-- Whether the scalar is not zero, whatever the unit. -/
def isTrue (a : Quantity α) : Bool := Scalar.isTrue a.scalar

/-- The scalar and, after a space, the unit if there is one. -/
def text (precision : Nat) (a : Quantity α) : String :=
  let unit := a.units.text
  if unit = "" then Scalar.text precision a.scalar
  else Scalar.text precision a.scalar ++ " " ++ unit

end Quantity
end QuantityCalculus
