/-
# Elementary functions of a complex number

The functions are continuous from the side that the sign of a zero imaginary part tells,
so each branch cut belongs to both of its sides. Arguments with an infinite or NaN part
have limits of their own, stated before each function.
-/

import QuantityCalculus.Complex.Basic

namespace QuantityCalculus
namespace Complex

open Number

/-- A quarter of the largest double: beyond it intermediate squares are avoided. -/
def large : Float := 1.7976931348623157e308 / 4.0

/-- The logarithm of `large`. -/
def logLarge : Float := Float.log large

/-- The square root of `large`. -/
def sqrtLarge : Float := Float.sqrt large

/-- The least normal double. -/
def leastNormal : Float := 2.2250738585072014e-308

/-- Whether both parts are finite. -/
def isFinite (z : Complex) : Bool := z.re.isFinite && z.im.isFinite

/-- The product with the imaginary unit. -/
def timesI (z : Complex) : Complex := ⟨-z.im, z.re⟩

/-- The product with the imaginary unit's opposite. -/
def overI (z : Complex) : Complex := ⟨z.im, -z.re⟩

/-- The square root at an argument with an infinite or NaN part. -/
def sqrtLimit (z : Complex) : Complex :=
  if z.im.isInf then ⟨infinity, z.im⟩
  else if z.re.isInf && z.re < 0 then
    if z.im.isNaN then ⟨nan, infinity⟩ else ⟨0.0, copySign infinity z.im⟩
  else if z.re.isInf then
    if z.im.isNaN then ⟨infinity, nan⟩ else ⟨infinity, copySign 0.0 z.im⟩
  else ⟨nan, nan⟩

/-- The square root with non-negative real part. -/
def sqrt (z : Complex) : Complex :=
  if !z.isFinite then sqrtLimit z
  else if z.re == 0 && z.im == 0 then ⟨0.0, z.im⟩
  else
    let ax := z.re.abs
    let ay := z.im.abs
    let s :=
      if ax < leastNormal && ay < leastNormal then
        let ax := ax.scaleB 53
        (Float.sqrt (ax + hypot ax (ay.scaleB 53))).scaleB (-27)
      else
        let ax := ax / 8.0
        2.0 * Float.sqrt (ax + hypot ax (ay / 8.0))
    let d := ay / (2.0 * s)
    if 0.0 ≤ z.re then ⟨s, copySign d z.im⟩ else ⟨d, copySign s z.im⟩

/-- The exponential at an argument with an infinite or NaN part. -/
def expLimit (z : Complex) : Except Trouble Complex :=
  if z.re.isInf && z.re < 0 then
    if z.im.isFinite then
      .ok ⟨copySign 0.0 (Float.cos z.im), copySign 0.0 (Float.sin z.im)⟩
    else .ok ⟨0.0, 0.0⟩
  else if z.re.isNaN then .ok ⟨nan, if z.im == 0 then z.im else nan⟩
  else if z.im.isInf then .error .outsideDomain
  else if z.re.isInf then
    if z.im.isNaN then .ok ⟨infinity, nan⟩
    else if z.im == 0 then .ok ⟨infinity, z.im⟩
    else .ok ⟨copySign infinity (Float.cos z.im), copySign infinity (Float.sin z.im)⟩
  else .ok ⟨nan, nan⟩

/-- A result with an infinite part is too large. -/
def finiteResult (z : Complex) : Except Trouble Complex :=
  if z.re.isInf || z.im.isInf then .error .tooLarge else .ok z

/-- The exponential. -/
def exp (z : Complex) : Except Trouble Complex :=
  if !z.isFinite then expLimit z
  else if logLarge < z.re then
    let l := Float.exp (z.re - 1.0)
    finiteResult ⟨l * Float.cos z.im * euler, l * Float.sin z.im * euler⟩
  else
    let l := Float.exp z.re
    finiteResult ⟨l * Float.cos z.im, l * Float.sin z.im⟩

/-- The logarithm of the absolute value of a finite number that is not zero. -/
def logAbs (z : Complex) : Float :=
  let ax := z.re.abs
  let ay := z.im.abs
  if large < ax || large < ay then Float.log (hypot (ax / 2.0) (ay / 2.0)) + ln2
  else if ax < leastNormal && ay < leastNormal then
    Float.log (hypot (ax.scaleB 53) (ay.scaleB 53)) - 53.0 * ln2
  else
    let h := hypot ax ay
    if 0.71 ≤ h && h ≤ 1.73 then
      let greater := if ay < ax then ax else ay
      let lesser := if ay < ax then ay else ax
      log1p ((greater - 1.0) * (greater + 1.0) + lesser * lesser) / 2.0
    else Float.log h

/-- The natural logarithm where it need not exist: at zero its real part is infinite. -/
def logValue (z : Complex) : Complex :=
  let angle := Float.atan2 z.im z.re
  if !z.isFinite then ⟨if z.re.isInf || z.im.isInf then infinity else nan, angle⟩
  else if z.re == 0 && z.im == 0 then ⟨-infinity, angle⟩
  else ⟨logAbs z, angle⟩

/-- The natural logarithm; undefined at zero. -/
def log (z : Complex) : Except Trouble Complex :=
  if z.re == 0 && z.im == 0 then .error .outsideDomain else .ok (logValue z)

/-- The logarithm to base ten; undefined at zero. -/
def log10 (z : Complex) : Except Trouble Complex :=
  (log z).map fun w => ⟨w.re / ln10, w.im / ln10⟩

/-- The logarithm to base two, a quotient of logarithms also at zero. -/
def log2 (z : Complex) : Complex :=
  (div? (logValue z) (logValue (ofReal 2.0))).getD ⟨nan, nan⟩

/-- The sign of a double as a factor. -/
def signOf (x : Float) : Float := if x < 0 then -1.0 else 1.0

/-- The hyperbolic cosine at an argument with an infinite or NaN part. -/
def coshLimit (z : Complex) : Except Trouble Complex :=
  if z.im.isInf && !z.re.isNaN then .error .outsideDomain
  else if z.re.isInf then
    if z.im.isNaN then .ok ⟨infinity, nan⟩
    else if z.im == 0 then .ok ⟨infinity, signOf z.re * z.im⟩
    else .ok ⟨copySign infinity (Float.cos z.im),
      signOf z.re * copySign infinity (Float.sin z.im)⟩
  else .ok ⟨nan, if z.re == 0 || z.im == 0 then 0.0 else nan⟩

/-- The hyperbolic cosine. -/
def cosh (z : Complex) : Except Trouble Complex :=
  if !z.isFinite then coshLimit z
  else if logLarge < z.re.abs then
    let x := z.re - copySign 1.0 z.re
    finiteResult ⟨Float.cos z.im * Float.cosh x * euler, Float.sin z.im * Float.sinh x * euler⟩
  else finiteResult ⟨Float.cos z.im * Float.cosh z.re, Float.sin z.im * Float.sinh z.re⟩

/-- The hyperbolic sine at an argument with an infinite or NaN part. -/
def sinhLimit (z : Complex) : Except Trouble Complex :=
  if z.im.isInf && !z.re.isNaN then .error .outsideDomain
  else if z.re.isInf then
    if z.im.isNaN then .ok ⟨infinity, nan⟩
    else if z.im == 0 then .ok z
    else .ok ⟨signOf z.re * copySign infinity (Float.cos z.im),
      copySign infinity (Float.sin z.im)⟩
  else if z.re.isNaN then .ok ⟨nan, if z.im == 0 then z.im else nan⟩
  else .ok ⟨if z.re == 0 then 0.0 else nan, nan⟩

/-- The hyperbolic sine. -/
def sinh (z : Complex) : Except Trouble Complex :=
  if !z.isFinite then sinhLimit z
  else if logLarge < z.re.abs then
    let x := z.re - copySign 1.0 z.re
    finiteResult ⟨Float.cos z.im * Float.sinh x * euler, Float.sin z.im * Float.cosh x * euler⟩
  else finiteResult ⟨Float.cos z.im * Float.sinh z.re, Float.sin z.im * Float.cosh z.re⟩

/-- The hyperbolic tangent at an argument with an infinite or NaN part. -/
def tanhLimit (z : Complex) : Except Trouble Complex :=
  if z.re.isInf then
    let im := if z.im.isFinite then copySign 0.0 (2.0 * Float.sin z.im * Float.cos z.im) else 0.0
    .ok ⟨signOf z.re, im⟩
  else if z.re.isNaN then .ok ⟨nan, if z.im == 0 then z.im else nan⟩
  else if z.im.isInf then .error .outsideDomain
  else .ok ⟨nan, nan⟩

/-- The hyperbolic tangent. -/
def tanh (z : Complex) : Except Trouble Complex :=
  if !z.isFinite then tanhLimit z
  else if logLarge < z.re.abs then
    .ok ⟨copySign 1.0 z.re,
      4.0 * Float.sin z.im * Float.cos z.im * Float.exp (-2.0 * z.re.abs)⟩
  else
    let tx := Float.tanh z.re
    let ty := Float.tan z.im
    let cx := 1.0 / Float.cosh z.re
    let txty := tx * ty
    let d := 1.0 + txty * txty
    .ok ⟨tx * (1.0 + ty * ty) / d, ty / d * cx * cx⟩

/-- The logarithm of the absolute value where squares would overflow, doubled once. -/
def logDoubled (z : Complex) : Float :=
  Float.log (hypot (z.re / 2.0) (z.im / 2.0)) + ln2 * 2.0

/-- The inverse cosine at an argument with an infinite or NaN part. -/
def acosLimit (z : Complex) : Complex :=
  let re := if z.re == 0 && z.im.isNaN then pi / 2.0 else Float.atan2 z.im.abs z.re
  let im :=
    if z.re.isInf || z.im.isInf then
      if z.im.isNaN then infinity else -(copySign infinity z.im)
    else nan
  ⟨re, im⟩

/-- The inverse cosine. -/
def acos (z : Complex) : Complex :=
  if !z.isFinite then acosLimit z
  else if large < z.re.abs || large < z.im.abs then
    let im := if z.re < 0 then -(copySign (logDoubled z) z.im) else copySign (logDoubled z) (-z.im)
    ⟨Float.atan2 z.im.abs z.re, im⟩
  else
    let s := sqrt ⟨1.0 - z.re, -z.im⟩
    let t := sqrt ⟨1.0 + z.re, z.im⟩
    ⟨2.0 * Float.atan2 s.re t.re, Float.asinh (t.re * s.im - t.im * s.re)⟩

/-- The inverse hyperbolic sine at an argument with an infinite or NaN part. -/
def asinhLimit (z : Complex) : Complex :=
  let re := if z.re.isInf then z.re else if z.im.isInf then copySign infinity z.re else nan
  let im := if z.re.isNaN && z.im == 0 then z.im else Float.atan2 z.im z.re.abs
  ⟨re, im⟩

/-- The inverse hyperbolic sine. -/
def asinh (z : Complex) : Complex :=
  if !z.isFinite then asinhLimit z
  else if large < z.re.abs || large < z.im.abs then
    let re :=
      if 0.0 ≤ z.im then copySign (logDoubled z) z.re else -(copySign (logDoubled z) (-z.re))
    ⟨re, Float.atan2 z.im z.re.abs⟩
  else
    let s := sqrt ⟨1.0 + z.im, -z.re⟩
    let t := sqrt ⟨1.0 - z.im, z.re⟩
    ⟨Float.asinh (s.re * t.im - t.re * s.im), Float.atan2 z.im (s.re * t.re - s.im * t.im)⟩

/-- The inverse hyperbolic tangent at an argument with an infinite or NaN part. -/
def atanhLimit (z : Complex) : Complex :=
  if z.re.isInf || z.im.isInf then
    ⟨copySign 0.0 z.re, if z.im.isNaN then nan else copySign (pi / 2.0) z.im⟩
  else if z.re == 0 then ⟨z.re, nan⟩
  else ⟨nan, nan⟩

/-- The inverse hyperbolic tangent of a finite number in the right half plane. -/
def atanhRight (z : Complex) : Except Trouble Complex :=
  let ay := z.im.abs
  if sqrtLarge < z.re || sqrtLarge < ay then
    let h := hypot (z.re / 2.0) (z.im / 2.0)
    .ok ⟨z.re / 4.0 / h / h, -(copySign (pi / 2.0) (-z.im))⟩
  else if z.re == 1.0 && ay < Float.sqrt leastNormal then
    if ay == 0 then .error .outsideDomain
    else .ok ⟨-(Float.log (Float.sqrt ay / Float.sqrt (hypot ay 2.0))),
      copySign (Float.atan2 2.0 (-ay) / 2.0) z.im⟩
  else
    .ok ⟨log1p (4.0 * z.re / ((1.0 - z.re) * (1.0 - z.re) + ay * ay)) / 4.0,
      -(Float.atan2 (-2.0 * z.im) ((1.0 - z.re) * (1.0 + z.re) - ay * ay)) / 2.0⟩

/-- The inverse hyperbolic tangent, an odd function; undefined at its poles. -/
def atanh (z : Complex) : Except Trouble Complex :=
  if !z.isFinite then .ok (atanhLimit z)
  else if isNegative z.re then (atanhRight (-z)).map neg
  else atanhRight z

end Complex

namespace Number

open QuantityCalculus.Complex

/-- The value of an elementary function at a complex number. -/
def Elementary.complex (f : Elementary) (z : Complex) : Except Trouble Complex :=
  match f with
  | exp => Complex.exp z
  | ln => Complex.log z
  | log10 => Complex.log10 z
  | log2 => .ok (Complex.log2 z)
  | sin => (Complex.sinh z.timesI).map overI
  | cos => Complex.cosh z.timesI
  | tan => (Complex.tanh z.timesI).map overI
  | asin => .ok (overI (Complex.asinh z.timesI))
  | acos => .ok (Complex.acos z)
  | atan => (Complex.atanh z.timesI).map overI
  | sinh => Complex.sinh z
  | cosh => Complex.cosh z
  | tanh => Complex.tanh z

end Number
end QuantityCalculus
