/-
# Exact exponents

A unit may be raised to a power whose exponent is only known as a double. The double is
expanded as a continued fraction until the next convergent would need too large a
denominator; the last convergent is the exponent if it reproduces the double to one part
in 10^12 and its terms fit in 32 bits with a sign.

The expansion is written over any arithmetic of magnitudes (`Expandable`): doubles run,
and rational numbers give the reading in which every step is exact.

**Main statement.** Neighbouring convergents have determinant one up to sign, so each is
in lowest terms (`Convergents.next_det`).
-/

import QuantityCalculus.Number.Rounding

namespace QuantityCalculus

/-- Arithmetic in which a number can be expanded as a continued fraction. -/
class Expandable (κ : Type) where
  isFinite : κ → Bool
  isZero : κ → Bool
  isNegative : κ → Bool
  abs : κ → κ
  inverse : κ → κ
  /-- the greatest natural number that is not above a magnitude -/
  floor : κ → Nat
  sub : κ → κ → κ
  /-- the quotient of two naturals -/
  ratio : Nat → Nat → κ
  /-- whether a magnitude is above a natural number -/
  exceeds : κ → Nat → Bool
  /-- whether the first differs from the second by at most one part in 10^12 of it -/
  close : κ → κ → Bool

namespace Exponent

open Expandable

instance : Expandable Float where
  isFinite := Float.isFinite
  isZero x := x == 0
  isNegative x := x < 0
  abs := Float.abs
  inverse x := 1.0 / x
  floor x := ((Number.floor? x).getD 0).toNat
  sub := (· - ·)
  ratio := Number.ofRatio false
  exceeds x n := Number.ofInt n < x
  close x y := (x - y).abs ≤ 1e-12 * y

instance : Expandable Rat where
  isFinite _ := true
  isZero x := x == 0
  isNegative x := x < 0
  abs x := if x < 0 then -x else x
  inverse x := 1 / x
  floor x := x.floor.toNat
  sub := (· - ·)
  ratio n d := mkRat n d
  exceeds x n := (n : Rat) < x
  close x y := (if x < y then y - x else x - y) ≤ (1 / 1000000000000 : Rat) * y

/-- The largest integer of 32 bits with a sign. -/
def largest : Nat := 0x7FFFFFFF

/-- The largest denominator of an exponent unless another is asked for. -/
def defaultDenominator : Nat := 24

/-- Two neighbouring convergents of a continued fraction, the earlier first. -/
structure Convergents where
  p₀ : Nat
  q₀ : Nat
  p₁ : Nat
  q₁ : Nat
deriving Repr, DecidableEq

/-- The pair before the first term. -/
def Convergents.start : Convergents := ⟨0, 1, 1, 0⟩

/-- The pair after one term more. -/
def Convergents.next (c : Convergents) (term : Nat) : Convergents :=
  ⟨c.p₁, c.q₁, c.p₀ + term * c.p₁, c.q₀ + term * c.q₁⟩

/-- The determinant of a pair. -/
def Convergents.det (c : Convergents) : Int := c.p₁ * c.q₀ - c.p₀ * c.q₁

/-- **A step turns the sign of the determinant** and keeps its magnitude. -/
theorem Convergents.next_det (c : Convergents) (term : Nat) : (c.next term).det = -c.det := by
  unfold Convergents.det Convergents.next
  simp only [Int.natCast_add, Int.natCast_mul, Int.add_mul]
  have h1 : (term : Int) * c.p₁ * c.q₁ = c.p₁ * (term * c.q₁) := by
    rw [Int.mul_comm (term : Int) c.p₁, Int.mul_assoc]
  rw [h1, Int.mul_add]
  omega

/-- The last pair whose denominator is allowed and that is not yet exact; `fuel` bounds
the number of terms. -/
def expand {κ : Type} [Expandable κ] (maxDenominator : Nat) (magnitude : κ) :
    Nat → κ → Convergents → Convergents
  | 0, _, c => c
  | fuel + 1, rest, c =>
    let term := floor rest
    let d := c.next term
    if maxDenominator < d.q₁ then c
    else
      let fraction := sub rest (ratio term 1)
      if isZero fraction || close (ratio d.p₁ d.q₁) magnitude then d
      else expand maxDenominator magnitude fuel (inverse fraction) d

/-- The exact fraction that a magnitude stands for. Denominators grow with every term
after the second, so that many terms and three more are enough. -/
def ofMagnitude? {κ : Type} [Expandable κ] (maxDenominator : Nat) (magnitude : κ) : Option Rat :=
  let c := expand maxDenominator magnitude (maxDenominator + 3) magnitude .start
  if c.q₁ = 0 ∨ largest < c.p₁ ∨ largest < c.q₁ then none
  else if close (ratio c.p₁ c.q₁) magnitude then some (mkRat c.p₁ c.q₁)
  else none

/-- The exact exponent that a number stands for, if there is one. -/
def ofScalar? {κ : Type} [Expandable κ] (maxDenominator : Nat) (x : κ) : Option Rat :=
  if !isFinite x then none
  else if isZero x then some 0
  else
    let magnitude := abs x
    if exceeds magnitude largest || exceeds (inverse magnitude) largest then none
    else (ofMagnitude? maxDenominator magnitude).map fun q => if isNegative x then -q else q

end Exponent
end QuantityCalculus
