/-
# Complex scalars

Pairs of doubles as scalars. A number is written without its imaginary part when that is
zero, and as a pair in JSON when it is not. The names `i` and `j` stand for the imaginary
unit wherever nothing else is bound to them.
-/

import QuantityCalculus.Complex.Gamma
import QuantityCalculus.Scalar.Real

namespace QuantityCalculus

open Number

/-- A complex number written for display: `3 + 4i`, `-i`, `2.5`. -/
def complexText (precision : Nat) (z : Complex) : String :=
  if z.im == 0 then realText precision z.re
  else
    let size := realText precision z.im.abs
    let imaginary := if size = "1" then "i" else size ++ "i"
    if z.re == 0 then if z.im < 0 then "-" ++ imaginary else imaginary
    else realText precision z.re ++ (if z.im < 0 then " - " else " + ") ++ imaginary

/-- A complex number as a JSON number or a pair of them. -/
def complexToJson (z : Complex) : Json :=
  if z.im == 0.0 then .float z.re else .arr [.float z.re, .float z.im]

/-- A complex number from a JSON number or a pair of them. -/
def complexOfJson (raw : Json) : Except Fault Complex :=
  let refused : Except Fault Complex := .error (CalcError.scalar (.complex raw))
  match raw with
  | .arr [a, b] =>
    match doubleOfJson? a, doubleOfJson? b with
    | some x, some y => do return ⟨← x, ← y⟩
    | _, _ => refused
  | _ =>
    match doubleOfJson? raw with
    | some x => x.map Complex.ofReal
    | none => refused

instance : Scalar Complex where
  kind := .complex
  ofReal := Complex.ofReal
  ofComplex z := .ok z
  re z := z.re
  im z := z.im
  conj := Complex.conj
  eq := Complex.eq
  add a b := a + b
  sub a b := a - b
  mul a b := a * b
  -- zero minus the number, which keeps a positive zero imaginary part positive
  neg a := Complex.ofReal 0.0 - a
  div a b := match Complex.div? a b with
    | some q => .ok q
    | none => .error .divisionByZero
  power a b := match Complex.power a b with
    | .ok p => .ok p
    | .error .undefined => .error .divisionByZero
    | .error .tooLarge => .error .tooLarge
  exponent z := if z.im != 0 then .error .complexExponent else realExponent z.re
  gamma z := match Complex.gamma? z with
    | some w => .ok w
    | none => .error .factorial
  abs z := z.abs.map Complex.ofReal
  sqrt z := .ok z.sqrt
  elementary f z := f.complex z
  text := complexText
  toJson := complexToJson
  ofJson := complexOfJson
  constant? name := if name = "i" ∨ name = "j" then some Complex.i else none

end QuantityCalculus
