/-
# Built-in functions

The functions that a calculator offers under fixed names, with what they do to units:
angle functions take radians or plain numbers, their inverses give radians, roots halve
the exponents, rounding keeps the unit. A function is found by its name and the number of
its arguments.

**Main statement.** No two functions of a kind of scalar share name and number of
arguments (`ofKind_distinct`).
-/

import QuantityCalculus.Number.Rounding
import QuantityCalculus.Quantity.Basic

namespace QuantityCalculus

open Number

/-- The unit of angles. -/
def Units.radian : Units := Units.ofSymbol "rad"

/-- The name of an elementary function. -/
def Number.Elementary.name : Elementary → String
  | exp => "exp"
  | ln => "ln"
  | log10 => "log10"
  | log2 => "log2"
  | sin => "sin"
  | cos => "cos"
  | tan => "tan"
  | asin => "asin"
  | acos => "acos"
  | atan => "atan"
  | sinh => "sinh"
  | cosh => "cosh"
  | tanh => "tanh"

/-- What an elementary function computes, in words. -/
def Number.Elementary.description : Elementary → String
  | exp => "Natural exponential."
  | ln => "Natural logarithm."
  | log10 => "Base 10 logarithm."
  | log2 => "Base 2 logarithm."
  | sin => "Sine of an angle."
  | cos => "Cosine of an angle."
  | tan => "Tangent of an angle."
  | asin => "Arcsine in radians."
  | acos => "Arccosine in radians."
  | atan => "Arctangent in radians."
  | sinh => "Hyperbolic sine."
  | cosh => "Hyperbolic cosine."
  | tanh => "Hyperbolic tangent."

/-- Whether the argument may be an angle. -/
def Number.Elementary.takesAngle : Elementary → Bool
  | sin | cos | tan => true
  | _ => false

/-- Whether the result is an angle. -/
def Number.Elementary.givesAngle : Elementary → Bool
  | asin | acos | atan => true
  | _ => false

/-- A built-in function. -/
inductive Builtin where
  | abs
  | sqrt
  | elementary (f : Elementary)
  | atan2
  | floor
  | ceil
  | round
  | roundPlaces
  | min
  | max
  | gamma
  | re
  | im
  | conj
  | arg
deriving Repr, DecidableEq

namespace Builtin

/-- The name that a function is called by. -/
def name : Builtin → String
  | abs => "abs"
  | sqrt => "sqrt"
  | elementary f => f.name
  | atan2 => "atan2"
  | floor => "floor"
  | ceil => "ceil"
  | round | roundPlaces => "round"
  | min => "min"
  | max => "max"
  | gamma => "gamma"
  | re => "re"
  | im => "im"
  | conj => "conj"
  | arg => "arg"

/-- The number of arguments. -/
def arity : Builtin → Nat
  | atan2 | roundPlaces | min | max => 2
  | _ => 1

/-- What a function computes, in words. -/
def description : Builtin → String
  | abs => "Absolute value, keeping the unit."
  | sqrt => "Square root; halves every unit exponent."
  | elementary f => f.description
  | atan2 => "Angle of the point (x, y) in radians, called as atan2(y, x)."
  | floor => "Round down."
  | ceil => "Round up."
  | round => "Round to the nearest integer."
  | roundPlaces => "Round to a number of decimals."
  | min => "Smaller of two quantities."
  | max => "Larger of two quantities."
  | gamma => "Gamma function."
  | re => "Real part."
  | im => "Imaginary part."
  | conj => "Complex conjugate."
  | arg => "Phase in radians."

/-- The functions for scalars of every kind. -/
def common : List Builtin :=
  [.abs, .sqrt, .elementary .exp, .elementary .ln, .elementary .log10, .elementary .log2,
    .elementary .sin, .elementary .cos, .elementary .tan, .elementary .asin, .elementary .acos,
    .elementary .atan, .atan2, .elementary .sinh, .elementary .cosh, .elementary .tanh, .floor,
    .ceil, .round, .roundPlaces, .min, .max, .gamma]

/-- The functions for a kind of scalar. -/
def ofKind : ScalarKind → List Builtin
  | .real => common
  | .complex => common ++ [.re, .im, .conj, .arg]

/-- **Name and number of arguments** tell the functions of a kind apart. -/
theorem ofKind_distinct (k : ScalarKind) :
    ((ofKind k).map fun b => (b.name, b.arity)).Nodup := by
  cases k <;> decide

/-- The function of a list with a name and a number of arguments. -/
def find? (builtins : List Builtin) (name : String) (arity : Nat) : Option Builtin :=
  builtins.find? fun b => b.name = name && b.arity = arity

/-- A result of a function, or the cause of its failure under the function's name. -/
def named {β : Type} (name : String) : Except Trouble β → Except Invalid β
  | .ok x => .ok x
  | .error .outsideDomain => .error (.argument name)
  | .error .tooLarge => .error (.result name)

/-- A double rounded to an integer. -/
def toInteger (name : String) (rounding : Float → Option Int) (x : Float) : Except Invalid Float :=
  match rounding x with
  | some n => .ok (ofInt n)
  | none => .error (if x.isNaN then .argument name else .result name)

/-- The angle of a point; one that is too small for a double cannot be told from zero and
has no value. -/
def phase (y x : Float) : Except Trouble Float :=
  let angle := Float.atan2 y x
  if angle == 0 && y != 0 && x.isFinite then .error .tooLarge else .ok angle

variable {α : Type} [Scalar α]

/-- An argument has to be without a unit. -/
def requireNumber (name : String) (a : Quantity α) : Except CalcError Unit :=
  if a.isPure then .ok () else .error (.units (.notDimensionless name))

/-- An argument has to be an angle or without a unit. -/
def requireAngle (name : String) (a : Quantity α) : Except CalcError Unit :=
  if a.units = .radian ∨ a.isPure then .ok () else .error (.units (.notAngle name))

/-- Two arguments have to be in the same unit. -/
def requireSame (name : String) (a b : Quantity α) : Except CalcError Unit :=
  if a.units = b.units then .ok () else .error (.units (.notSame name))

/-- The value of an elementary function. -/
def applyElementary (f : Elementary) (a : Quantity α) : Except CalcError (Quantity α) := do
  if f.takesAngle then requireAngle f.name a else requireNumber f.name a
  let x ← named f.name (Scalar.elementary f a.scalar)
  return ⟨x, if f.givesAngle then .radian else .none⟩

/-- The value of a function of one argument. -/
def applyUnary (b : Builtin) (a : Quantity α) : Except CalcError (Quantity α) := do
  match b with
  | abs => return a.withScalar (← named "abs" (Scalar.abs a.scalar))
  | sqrt => return ⟨← Scalar.sqrt a.scalar, a.units.pow (1 / 2)⟩
  | elementary f => applyElementary f a
  | floor => return a.withScalar (Scalar.ofReal (← toInteger "floor" floor? (Scalar.re a.scalar)))
  | ceil => return a.withScalar (Scalar.ofReal (← toInteger "ceil" ceil? (Scalar.re a.scalar)))
  | round => return a.withScalar (Scalar.ofReal (← toInteger "round" round? (Scalar.re a.scalar)))
  | gamma =>
    requireNumber "gamma" a
    return Quantity.pure (← Scalar.gamma a.scalar)
  | re => return a.withScalar (Scalar.ofReal (Scalar.re a.scalar))
  | im => return a.withScalar (Scalar.ofReal (Scalar.im a.scalar))
  | conj => return a.withScalar (Scalar.conj a.scalar)
  | arg =>
    requireNumber "arg" a
    let angle ← named "arg" (phase (Scalar.im a.scalar) (Scalar.re a.scalar))
    return ⟨Scalar.ofReal angle, .radian⟩
  | _ => throw (.missing (.function b.name 1))

/-- A quantity rounded to as many decimals as another says. A value that would leave the
range of doubles has no rounding. -/
def applyRoundPlaces (a digits : Quantity α) : Except Fault (Quantity α) := do
  requireNumber "round" digits
  match truncate? (Scalar.re digits.scalar) with
  | none => throw (.error (.invalid .roundingPlaces))
  | some places =>
    match roundPlaces? (Scalar.re a.scalar) places with
    | some x => return a.withScalar (Scalar.ofReal x)
    | none => throw .overflow

/-- The value of a function of two arguments. -/
def applyBinary (f : Builtin) (a b : Quantity α) : Except Fault (Quantity α) := do
  match f with
  | roundPlaces => applyRoundPlaces a b
  | atan2 =>
    requireSame "atan2" a b
    return ⟨Scalar.ofReal (Float.atan2 (Scalar.re a.scalar) (Scalar.re b.scalar)), .radian⟩
  | min =>
    requireSame "min" a b
    return if Scalar.re b.scalar < Scalar.re a.scalar then b else a
  | max =>
    requireSame "max" a b
    return if Scalar.re a.scalar < Scalar.re b.scalar then b else a
  | _ => throw (.error (.missing (.function f.name 2)))

/-- The value of a function at its arguments. -/
def apply (f : Builtin) : List (Quantity α) → Except Fault (Quantity α)
  | [a] => applyUnary f a
  | [a, b] => applyBinary f a b
  | args => .error (CalcError.missing (.function f.name args.length))

end Builtin
end QuantityCalculus
