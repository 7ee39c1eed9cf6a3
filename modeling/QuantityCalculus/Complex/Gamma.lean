/-
# The gamma function of a complex number

The function is the exponential of its logarithm. The logarithm is an asymptotic series
far from the origin, a power series around one and around two, a recurrence to the right
elsewhere in the right half plane, and a reflection in the left one.
-/

import QuantityCalculus.Complex.Elementary
import QuantityCalculus.Number.Gamma

namespace QuantityCalculus
namespace Complex

open Number

/-- A polynomial with real coefficients, the highest power first. -/
def polynomial (cs : List Float) (z : Complex) : Complex :=
  cs.foldl (fun acc c => acc * z + ofReal c) (ofReal 0.0)

/-- A complex number times a real one. -/
def scale (x : Float) (z : Complex) : Complex := ⟨x * z.re, x * z.im⟩

/-- The inverse of a number that is not zero. -/
def inverse (z : Complex) : Complex := (div? one z).getD ⟨nan, nan⟩

/-- Half the logarithm of twice the circle constant. -/
def halfLogTwoPi : Float := 0.918938533204672742

/-- The logarithm of the circle constant. -/
def logPi : Float := 1.1447298858494001741434262

/-- Twice the circle constant. -/
def twoPi : Float := 6.2831853071795864769252842

/-- The coefficients of the asymptotic series, the highest power first. -/
def stirlingCoefficients : List Float := [
  -2.955065359477124183e-2, 6.4102564102564102564e-3, -1.9175269175269175269e-3,
  8.4175084175084175084e-4, -5.952380952380952381e-4, 7.9365079365079365079e-4,
  -2.7777777777777777778e-3, 8.3333333333333333333e-2]

/-- The logarithm of gamma by its asymptotic series. -/
def logGammaStirling (z : Complex) : Complex :=
  let rz := inverse z
  let rzz := (div? rz z).getD ⟨nan, nan⟩
  (z - ofReal 0.5) * logValue z - z + ofReal halfLogTwoPi + rz * polynomial stirlingCoefficients rzz

/-- The coefficients of the power series around one, the highest power first: values of
the zeta function over their index with alternating signs, and Euler's constant. -/
def taylorCoefficients : List Float := [
  -0.04347826605304026, 0.04545455629320467, -0.047619070330142226, 0.05000004769810169,
  -0.05263167937961666, 0.055555767627403614, -0.058823978658684585, 0.06250095514121304,
  -0.06666870588242046, 0.07143294629536133, -0.0769325164113522, 0.083353840546109,
  -0.09095401714582904, 0.1000994575127818, -0.11133426586956469, 0.12550966952474304,
  -0.1440498967688461, 0.1695571769974082, -0.20738555102867398, 0.27058080842778454,
  -0.40068563438653143, 0.8224670334241132, -0.5772156649015329]

/-- The logarithm of gamma by its power series around one. -/
def logGammaTaylor (z : Complex) : Complex :=
  let w := z - one
  w * polynomial taylorCoefficients w

/-- Steps to the right until the real part is above seven, with the product of the
numbers passed and the count of times that its imaginary part turned negative. -/
def shiftRight : Nat → Complex → Complex → Nat → Bool → Complex × Complex × Nat
  | 0, z, product, flips, _ => (z, product, flips)
  | fuel + 1, z, product, flips, below =>
    if z.re ≤ 7.0 then
      let product := product * z
      let now := isNegative product.im
      shiftRight fuel (z + one) product (if now && !below then flips + 1 else flips) now
    else (z, product, flips)

/-- The logarithm of gamma by recurrence, in the upper right quadrant. -/
def logGammaRecurrence (z : Complex) : Complex :=
  let (w, product, flips) := shiftRight 9 (z + one) z 0 false
  logGammaStirling w - logValue product - ⟨0.0, ofInt flips * twoPi⟩

/-- The distance of two numbers. -/
def distance (a b : Complex) : Float := hypot (a.re - b.re) (a.im - b.im)

/-- The logarithm of gamma where the real part is at least one tenth. -/
def logGammaRight (z : Complex) : Complex :=
  if 7.0 < z.re || 7.0 < z.im.abs then logGammaStirling z
  else if distance z one ≤ 0.2 then logGammaTaylor z
  else if distance z (ofReal 2.0) ≤ 0.2 then logValue (z - one) + logGammaTaylor (z - one)
  else if isNegative z.im then (logGammaRecurrence z.conj).conj
  else logGammaRecurrence z

/-- The cosine of `pi * x` for finite `x`, exact at multiples of one half. -/
def cosPi (x : Float) : Float :=
  let r := modulo x.abs 2.0
  if r == 0.5 then 0.0
  else if r < 1.0 then -(Float.sin (pi * (r - 0.5)))
  else Float.sin (pi * (r - 1.5))

/-- The sine of `pi * z` for moderate imaginary parts. -/
def sinPi (z : Complex) : Complex :=
  let y := pi * z.im
  ⟨Number.sinPi z.re * Float.cosh y, cosPi z.re * Float.sinh y⟩

/-- The logarithm of gamma. -/
def logGamma (z : Complex) : Complex :=
  if z.re < 0.1 && z.re ≤ 7.0 && z.im.abs ≤ 7.0 then
    let turn := copySign twoPi z.im * Float.floor (0.5 * z.re + 0.25)
    ⟨logPi, turn⟩ - logValue (sinPi z) - logGammaRight (one - z)
  else logGammaRight z

/-- The gamma function, where it has a value that is finite. -/
def gamma? (z : Complex) : Option Complex :=
  if z.im == 0 && z.re ≤ 0 && isInteger z.re then none
  else match exp (logGamma z) with
    | .ok w => if w.isFinite then some w else none
    | .error _ => none

end Complex
end QuantityCalculus
