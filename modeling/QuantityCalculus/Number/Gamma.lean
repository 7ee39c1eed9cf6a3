/-
# The gamma function of a real number

For small integers the factorials are exact. Elsewhere the function is computed by the
Lanczos approximation, a quotient of two polynomials of degree twelve, with a correction
for the rounding of its argument; negative arguments go through the reflection formula.
-/

import QuantityCalculus.Number.Elementary

namespace QuantityCalculus
namespace Number

/-- The factorial of a natural number. -/
def factorial : Nat → Nat
  | 0 => 1
  | n + 1 => (n + 1) * factorial n

namespace Lanczos

/-- The parameter of the approximation. -/
def g : Float := 6.024680040776729583740234375

/-- The parameter less one half. -/
def gMinusHalf : Float := 5.524680040776729583740234375

/-- The coefficients of the numerator, from the constant term on. -/
def numerator : List Float := [
  23531376880.410759688572007674451636754734846804940,
  42919803642.649098768957899047001988850926355848959,
  35711959237.355668049440185451547166705960488635843,
  17921034426.037209699919755754458931112671403265390,
  6039542586.3520280050642916443072979210699388420708,
  1439720407.3117216736632230727949123939715485786372,
  248874557.86205415651146038641322942321632125127801,
  31426415.585400194380614231628318205362874684987640,
  2876370.6289353724412254090516208496135991145378768,
  186056.26539522349504029498971604569928220784236328,
  8071.6720023658162106380029022722506138218516325024,
  210.82427775157934587250973392071336271166969580291,
  2.5066282746310002701649081771338373386264310793408]

/-- The coefficients of the denominator, from the constant term on. -/
def denominator : List Float := [
  0.0, 39916800.0, 120543840.0, 150917976.0, 105258076.0, 45995730.0, 13339535.0,
  2637558.0, 357423.0, 32670.0, 1925.0, 66.0, 1.0]

/-- The quotient of the polynomials, in powers of `x` for small `x` and of its inverse
for large ones. -/
def sum (x : Float) : Float :=
  if x < 5.0 then
    let at_ (cs : List Float) := cs.foldr (fun c acc => acc * x + c) 0.0
    at_ numerator / at_ denominator
  else
    let at_ (cs : List Float) := cs.foldl (fun acc c => acc / x + c) 0.0
    at_ numerator / at_ denominator

end Lanczos

/-- The sine of `pi * x` for finite `x`, exact at multiples of one half. -/
def sinPi (x : Float) : Float :=
  let y := modulo x.abs 2.0
  let r :=
    match (round? (2.0 * y)).getD 0 with
    | 0 => Float.sin (pi * y)
    | 1 => Float.cos (pi * (y - 0.5))
    | 2 => Float.sin (pi * (1.0 - y))
    | 3 => -Float.cos (pi * (y - 1.5))
    | _ => Float.sin (pi * (y - 2.0))
  copySign 1.0 x * r

/-- The approximation at a finite argument of moderate magnitude that is no pole. -/
def gammaApprox (x : Float) : Float :=
  let a := x.abs
  let y := a + Lanczos.gMinusHalf
  let rounding :=
    if Lanczos.gMinusHalf < a then (y - a) - Lanczos.gMinusHalf
    else (y - Lanczos.gMinusHalf) - a
  let z := rounding * Lanczos.g / y
  if x < 0.0 then
    let r := -pi / sinPi a / a * Float.exp y / Lanczos.sum a
    let r := r - z * r
    if a < 140.0 then r / Float.pow y (a - 0.5)
    else
      let half := Float.pow y (a / 2.0 - 0.25)
      r / half / half
  else
    let r := Lanczos.sum a / Float.exp y
    let r := r + z * r
    if a < 140.0 then r * Float.pow y (a - 0.5)
    else
      let half := Float.pow y (a / 2.0 - 0.25)
      r * half * half

/-- The gamma function: undefined at zero and the negative integers, too large beyond 171. -/
def gamma (x : Float) : Except Trouble Float :=
  if x.isNaN then .ok x
  else if x.isInf then if x < 0 then .error .outsideDomain else .ok x
  else if x == 0 then .error .outsideDomain
  else if isInteger x && x < 0 then .error .outsideDomain
  else if isInteger x && x ≤ 23 then
    .ok (ofInt (factorial ((truncate? x).getD 1 - 1).toNat))
  else if x.abs < 1e-20 then
    let r := 1.0 / x
    if r.isInf then .error .tooLarge else .ok r
  else if 200.0 < x.abs then
    if x < 0 then .ok (0.0 / sinPi x) else .error .tooLarge
  else
    let r := gammaApprox x
    if r.isInf then .error .tooLarge else .ok r

end Number
end QuantityCalculus
