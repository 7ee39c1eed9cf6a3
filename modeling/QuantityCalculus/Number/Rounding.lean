/-
# Rounding to integers and to decimal places, and the nearest remainder

Each operation works on the exact ratio that a double stands for, so the only rounding
is the one the operation asks for: toward zero, down, up, to the nearest integer or to
a number of decimal places, a half always going to the even neighbour.
-/

import QuantityCalculus.Number.Binary

namespace QuantityCalculus
namespace Number

/-- The integer part of a finite double, toward zero. -/
def truncate? (x : Float) : Option Int := (ratio? x).map fun r => r.1.tdiv r.2

/-- The greatest integer that is not above a finite double. -/
def floor? (x : Float) : Option Int := (ratio? x).map fun r => r.1.fdiv r.2

/-- The least integer that is not below a finite double. -/
def ceil? (x : Float) : Option Int := (ratio? x).map fun r => -(-r.1).fdiv r.2

/-- A signed ratio rounded to the nearest integer, a tie to the even one. -/
def nearestInt (num : Int) (den : Nat) : Int :=
  if num < 0 then -(roundHalfEven num.natAbs den : Int) else roundHalfEven num.natAbs den

/-- The integer nearest to a finite double, a half going to the even neighbour. -/
def round? (x : Float) : Option Int := (ratio? x).map fun r => nearestInt r.1 r.2

/-- Most decimal places at which rounding can still change a double. -/
def mostPlaces : Int := 323

/-- Fewest decimal places (a negative count) at which a double need not round to zero. -/
def fewestPlaces : Int := -308

/-- A double rounded to decimal places (to tens, hundreds, … for a negative count) and
read back; `none` when the rounded value is beyond the largest double. Infinities and
NaN round to themselves, and the sign of zero is kept. -/
def roundPlaces? (x : Float) (places : Int) : Option Float :=
  match parts x with
  | .finite negative b =>
    if mostPlaces < places then some x
    else if places < fewestPlaces then some (if negative then -0.0 else 0.0)
    else
      let scaled := roundHalfEven (b.num * Nat.pow 10 places.toNat)
        (b.den * Nat.pow 10 (-places).toNat)
      let num := scaled * Nat.pow 10 (-places).toNat
      let den := Nat.pow 10 places.toNat
      if nearestBits num den < infinityBits then some (ofRatio negative num den) else none
  | _ => some x

/-- The remainder of `x` by the multiple of `y` nearest to it, a tie to the even
multiple; the result is exact, and a zero has the sign of `x`. `none` for an infinite
`x` and for a zero `y`, where no remainder is defined. -/
def remainder? (x y : Float) : Option Float :=
  match parts x, parts y with
  | .nan, _ => some nan
  | _, .nan => some nan
  | .infinite _, _ => none
  | .finite _ _, .infinite _ => some x
  | .finite negative a, .finite _ b =>
    if b.mantissa = 0 then none
    else
      let p := a.num * b.den
      let q := b.num * a.den
      let rest : Int := (p : Int) - (roundHalfEven p q * q : Nat)
      some (ofRatio (negative != decide (rest < 0)) rest.natAbs (a.den * b.den))

end Number
end QuantityCalculus
