/-
# Doubles as exact ratios

A finite double is a sign and a natural number times a power of two. This module reads
those parts off the 64 bits of a double, and rounds an exact ratio of naturals to the
nearest double, a tie going to the even neighbour.

**Main statements.**

* `roundHalfEven_near`: the rounded quotient is within half a unit of the ratio.
* `roundHalfEven_tie`: a ratio half-way between two integers goes to the even one.
* `roundHalfEven_mul`: a ratio that is an integer is left alone.
-/

namespace QuantityCalculus
namespace Number

/-- A finite double without its sign, `mantissa * 2 ^ exponent`. -/
structure Binary where
  mantissa : Nat
  exponent : Int
deriving Repr, DecidableEq

/-- What the bits of a double stand for; the flag tells whether the sign bit is set. -/
inductive Parts where
  | nan
  | infinite (negative : Bool)
  | finite (negative : Bool) (value : Binary)
deriving Repr, DecidableEq

/-- The parts of a double: eleven bits of exponent and 52 bits of mantissa, with an
implicit leading bit unless the exponent field is zero. -/
def parts (x : Float) : Parts :=
  let bits : Nat := x.toBits.toNat
  let negative := decide (0x8000000000000000 ≤ bits)
  let field : Nat := bits / 0x10000000000000 % 0x800
  let fraction : Nat := bits % 0x10000000000000
  if field = 0x7FF then
    if fraction = 0 then .infinite negative else .nan
  else if field = 0 then .finite negative ⟨fraction, -1074⟩
  else .finite negative ⟨0x10000000000000 + fraction, (field : Int) - 1075⟩

/-- The numerator of the value as a ratio of naturals. -/
def Binary.num (b : Binary) : Nat := b.mantissa * Nat.pow 2 b.exponent.toNat

/-- The denominator of the value as a ratio of naturals, a power of two. -/
def Binary.den (b : Binary) : Nat := Nat.pow 2 (-b.exponent).toNat

/-- Whether the sign bit of a double is set; a NaN counts as positive. -/
def isNegative (x : Float) : Bool :=
  match parts x with
  | .nan => false
  | .infinite negative => negative
  | .finite negative _ => negative

/-- The value of a finite double as a signed ratio. -/
def ratio? (x : Float) : Option (Int × Nat) :=
  match parts x with
  | .finite negative b => some (if negative then -(b.num : Int) else b.num, b.den)
  | _ => none

/-- The value of a finite double as a rational number. -/
def toRat? (x : Float) : Option Rat := (ratio? x).map fun r => mkRat r.1 r.2

/-- The quotient `num / den` rounded to the nearest natural, a tie to the even one. -/
def roundHalfEven (num den : Nat) : Nat :=
  let q := num / den
  let r := num % den
  if 2 * r < den then q
  else if den < 2 * r then q + 1
  else if q % 2 = 0 then q else q + 1

/-- **Rounding stays within half a unit** of the ratio. -/
theorem roundHalfEven_near (num : Nat) {den : Nat} (h : 0 < den) :
    2 * (roundHalfEven num den * den) ≤ 2 * num + den ∧
      2 * num ≤ 2 * (roundHalfEven num den * den) + den := by
  have e : den * (num / den) + num % den = num := Nat.div_add_mod num den
  have l := Nat.mod_lt num h
  rw [Nat.mul_comm] at e
  have s : (num / den + 1) * den = num / den * den + den := by rw [Nat.add_mul, Nat.one_mul]
  unfold roundHalfEven
  simp only
  split
  · omega
  · split
    · omega
    · split <;> omega

/-- **A tie goes to the even neighbour.** -/
theorem roundHalfEven_tie {num den : Nat} (h : 2 * (num % den) = den) :
    roundHalfEven num den % 2 = 0 := by
  unfold roundHalfEven
  simp only [h, Nat.lt_irrefl, if_false]
  split <;> omega

/-- **An integer is its own rounding.** -/
theorem roundHalfEven_mul (n : Nat) {den : Nat} (h : 0 < den) :
    roundHalfEven (n * den) den = n := by
  simp [roundHalfEven, h]

/-- The position of the last bit that a double keeps of the ratio `num / den`: with it
the rounded mantissa has 53 bits, or fewer at the bottom of the range. -/
def lastBit (num den : Nat) : Int :=
  let guess : Int := (num.log2 : Int) - den.log2
  let below := num * Nat.pow 2 (-guess).toNat < den * Nat.pow 2 guess.toNat
  max (-1074) (guess - 52 - if below then 1 else 0)

/-- The bits of positive infinity: the largest exponent field and no fraction. -/
def infinityBits : Nat := 0x7FF0000000000000

/-- The bits of the non-negative double nearest to `num / den`; past the largest double
they are the bits of infinity. -/
def nearestBits (num den : Nat) : Nat :=
  if num = 0 then 0
  else
    let e := lastBit num den
    let mantissa := roundHalfEven (num * Nat.pow 2 (-e).toNat) (den * Nat.pow 2 e.toNat)
    min ((e + 1074).toNat * 0x10000000000000 + mantissa) infinityBits

/-- The double nearest to `num / den` with the given sign. -/
def ofRatio (negative : Bool) (num den : Nat) : Float :=
  Float.ofBits (UInt64.ofNat (nearestBits num den + if negative then 0x8000000000000000 else 0))

/-- The double nearest to an integer, unless that is beyond the largest double. -/
def ofInt? (n : Int) : Option Float :=
  if nearestBits n.natAbs 1 < infinityBits then some (ofRatio (decide (n < 0)) n.natAbs 1) else none

/-- The double nearest to an integer, infinite beyond the largest double. -/
def ofInt (n : Int) : Float := ofRatio (decide (n < 0)) n.natAbs 1

/-- The double nearest to a rational number. -/
def ofRat (r : Rat) : Float := ofRatio (decide (r.num < 0)) r.num.natAbs r.den

/-- The not-a-number value. -/
def nan : Float := 0.0 / 0.0

/-- Positive infinity. -/
def infinity : Float := 1.0 / 0.0

/-- The magnitude of `x` with the sign of `y`. -/
def copySign (x y : Float) : Float :=
  if isNegative y then -x.abs else x.abs

end Number
end QuantityCalculus
