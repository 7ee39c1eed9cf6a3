/-
# Real scalars

Doubles as scalars. A power of a negative number needs an integer exponent, a power of
zero a finite negative exponent has none, and a result that is infinite for finite
operands is too large.
-/

import QuantityCalculus.Number.Gamma
import QuantityCalculus.Scalar.Basic
import QuantityCalculus.Units.Exponent

namespace QuantityCalculus

open Number

/-- The power of a real number to a real exponent. -/
def realPower (x y : Float) : Except Invalid Float :=
  if x < 0 && !isInteger y then .error .fractionalPower
  else if y == 0 then .ok 1.0
  else if x == 0 && y < 0 && y.isFinite then .error .divisionByZero
  else
    let r := Float.pow x y
    if r.isInf && x.isFinite && y.isFinite then .error .tooLarge else .ok r

/-- The gamma function with the causes of a calculation. -/
def realGamma (x : Float) : Except Invalid Float :=
  match gamma x with
  | .ok y => .ok y
  | .error .outsideDomain => .error .factorial
  | .error .tooLarge => .error .tooLarge

/-- The exact exponent of a double. -/
def realExponent (x : Float) : Except Invalid Rat :=
  match Exponent.ofScalar? Exponent.defaultDenominator x with
  | some q => .ok q
  | none => .error .awkwardExponent

instance : Scalar Float where
  kind := .real
  ofReal x := x
  ofComplex z := if z.im != 0 then .error .notReal else .ok z.re
  re x := x
  im _ := 0.0
  conj x := x
  eq x y := x == y
  add x y := x + y
  sub x y := x - y
  mul x y := x * y
  neg x := -x
  div x y := if y == 0 then .error .divisionByZero else .ok (x / y)
  power := realPower
  exponent := realExponent
  gamma := realGamma
  abs x := .ok x.abs
  sqrt x := if x < 0 then .error .squareRoot else .ok x.sqrt
  elementary f x := f.real x
  text := realText
  toJson x := .float x
  ofJson raw := (doubleOfJson? raw).getD (.error (CalcError.scalar (.real raw)))
  constant? _ := none

end QuantityCalculus
