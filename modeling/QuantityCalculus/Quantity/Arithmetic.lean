/-
# Arithmetic of quantities

Sums, differences and comparisons need equal units; products and quotients combine them;
an exponent has no unit, and a base with a unit needs an exponent that is an exact
fraction. Remainders, integer quotients, bits and shifts work on the real part.
-/

import QuantityCalculus.Quantity.Basic
import QuantityCalculus.Quantity.Bitwise

namespace QuantityCalculus
namespace Quantity

open Number

variable {α : Type} [Scalar α]

/-- The opposite. -/
def neg (a : Quantity α) : Quantity α := ⟨Scalar.neg a.scalar, a.units⟩

/-- The factorial, `gamma (a + 1)`. -/
def factorial (a : Quantity α) : Except CalcError (Quantity α) := do
  unless a.isPure do throw <| .units .factorial
  return pure (← Scalar.gamma (Scalar.add a.scalar Scalar.one))

/-- The scalar alone. -/
def stripped (a : Quantity α) : Quantity α := pure a.scalar

/-- The sum. -/
def add (a b : Quantity α) : Except CalcError (Quantity α) := do
  unless a.units = b.units do throw <| .units .addition
  return ⟨Scalar.add a.scalar b.scalar, a.units⟩

/-- The difference. -/
def sub (a b : Quantity α) : Except CalcError (Quantity α) := do
  unless a.units = b.units do throw <| .units .subtraction
  return ⟨Scalar.sub a.scalar b.scalar, a.units⟩

/-- The product. -/
def mul (a b : Quantity α) : Quantity α := ⟨Scalar.mul a.scalar b.scalar, a.units * b.units⟩

/-- The quotient. -/
def div (a b : Quantity α) : Except CalcError (Quantity α) := do
  return ⟨← Scalar.div a.scalar b.scalar, a.units / b.units⟩

/-- The remainder of the real parts by the nearest multiple, in the unit of the first. -/
def remainder (a b : Quantity α) : Except CalcError (Quantity α) := do
  let divisor := Scalar.re b.scalar
  if divisor == 0 then throw <| .invalid .divisionByZero
  match remainder? (Scalar.re a.scalar) divisor with
  | some r => return ⟨Scalar.ofReal r, a.units⟩
  | none => throw <| .invalid .undefined

/-- The quotient of the real parts, cut to an integer. -/
def integerDiv (a b : Quantity α) : Except CalcError (Quantity α) := do
  let divisor := Scalar.re b.scalar
  if divisor == 0 then throw <| .invalid .divisionByZero
  match truncate? (Scalar.re a.scalar / divisor) with
  | some n => return ⟨Scalar.ofReal (ofInt n), a.units / b.units⟩
  | none => throw <| .invalid .notFinite

/-- The power. An exponent equal to one leaves the base alone. -/
def power (a b : Quantity α) : Except CalcError (Quantity α) := do
  unless b.isPure do throw <| .units .exponent
  if Scalar.eq b.scalar Scalar.one then return a
  if a.isPure then return pure (← Scalar.power a.scalar b.scalar)
  let q ← Scalar.exponent b.scalar
  return ⟨← Scalar.power a.scalar b.scalar, a.units.pow q⟩

/-- An operation on the integer parts of two quantities without units. -/
def onIntegers (mismatch : Mismatch) (f : Int → Int → Int) (a b : Quantity α) :
    Except CalcError (Quantity α) := do
  unless a.isPure && b.isPure do throw <| .units mismatch
  let l ← Scalar.toInt a.scalar
  let r ← Scalar.toInt b.scalar
  return pure (Scalar.ofReal (ofInt (f l r)))

/-- The bitwise disjunction. -/
def bitwiseOr (a b : Quantity α) : Except CalcError (Quantity α) :=
  onIntegers .bitwiseOr Bitwise.or a b

/-- The bitwise conjunction. -/
def bitwiseAnd (a b : Quantity α) : Except CalcError (Quantity α) :=
  onIntegers .bitwiseAnd Bitwise.and a b

/-- The shift to the left. -/
def shiftLeft (a b : Quantity α) : Except CalcError (Quantity α) :=
  onIntegers .shift Bitwise.shiftLeft a b

/-- The shift to the right. -/
def shiftRight (a b : Quantity α) : Except CalcError (Quantity α) :=
  onIntegers .shift Bitwise.shiftRight a b

/-- A truth value about two quantities of one unit. -/
def compared (test : α → α → Bool) (a b : Quantity α) : Except CalcError (Quantity α) := do
  unless a.units = b.units do throw <| .units .comparison
  return ofBool (test a.scalar b.scalar)

/-- Whether the scalars are equal. -/
def equal (a b : Quantity α) : Except CalcError (Quantity α) := compared Scalar.eq a b

/-- Whether the scalars differ. -/
def notEqual (a b : Quantity α) : Except CalcError (Quantity α) :=
  compared (fun x y => !Scalar.eq x y) a b

/-- Whether the first real part is less. -/
def less (a b : Quantity α) : Except CalcError (Quantity α) :=
  compared (fun x y => decide (Scalar.re x < Scalar.re y)) a b

/-- Whether the first real part is less or equal. -/
def lessOrEqual (a b : Quantity α) : Except CalcError (Quantity α) :=
  compared (fun x y => decide (Scalar.re x ≤ Scalar.re y)) a b

/-- Whether the first real part is greater. -/
def greater (a b : Quantity α) : Except CalcError (Quantity α) :=
  compared (fun x y => decide (Scalar.re y < Scalar.re x)) a b

/-- Whether the first real part is greater or equal. -/
def greaterOrEqual (a b : Quantity α) : Except CalcError (Quantity α) :=
  compared (fun x y => decide (Scalar.re y ≤ Scalar.re x)) a b

/-- How many of the second fit in the first; their units must be equal. -/
def ratio (mismatch : Mismatch) (a b : Quantity α) : Except CalcError α := do
  unless a.units = b.units do throw <| .units mismatch
  Scalar.div a.scalar b.scalar

end Quantity
end QuantityCalculus
