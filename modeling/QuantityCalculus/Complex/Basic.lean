/-
# Complex numbers over doubles

Sums and products follow the defining formulas, so an infinite factor can give a NaN
part. A quotient divides by the larger part of the divisor first, which keeps the
intermediate ratio at most one. A power with a small integer exponent is a repeated
product; any other power goes through the polar form.
-/

import QuantityCalculus.Number.Elementary

namespace QuantityCalculus

open Number

/-- A complex number. -/
structure Complex where
  re : Float
  im : Float

namespace Complex

/-- A real number as a complex one. -/
def ofReal (x : Float) : Complex := ⟨x, 0.0⟩

/-- The imaginary unit. -/
def i : Complex := ⟨0.0, 1.0⟩

/-- One. -/
def one : Complex := ofReal 1.0

/-- The sum, part by part. -/
def add (a b : Complex) : Complex := ⟨a.re + b.re, a.im + b.im⟩

/-- The difference, part by part. -/
def sub (a b : Complex) : Complex := ⟨a.re - b.re, a.im - b.im⟩

/-- Both parts with the opposite sign. -/
def neg (a : Complex) : Complex := ⟨-a.re, -a.im⟩

/-- The product by its four partial products. -/
def mul (a b : Complex) : Complex := ⟨a.re * b.re - a.im * b.im, a.re * b.im + a.im * b.re⟩

instance : Add Complex := ⟨add⟩
instance : Sub Complex := ⟨sub⟩
instance : Neg Complex := ⟨neg⟩
instance : Mul Complex := ⟨mul⟩

/-- Whether both parts are equal as doubles: zeros of either sign are, a NaN never is. -/
def eq (a b : Complex) : Bool := a.re == b.re && a.im == b.im

/-- The complex conjugate. -/
def conj (a : Complex) : Complex := ⟨a.re, -a.im⟩

/-- The quotient; undefined for a divisor that is zero. -/
def div? (a b : Complex) : Option Complex :=
  if b.im.abs ≤ b.re.abs then
    if b.re.abs == 0 then none
    else
      let ratio := b.im / b.re
      let d := b.re + b.im * ratio
      some ⟨(a.re + a.im * ratio) / d, (a.im - a.re * ratio) / d⟩
  else if b.re.abs ≤ b.im.abs then
    let ratio := b.re / b.im
    let d := b.re * ratio + b.im
    some ⟨(a.re * ratio + a.im) / d, (a.im * ratio - a.re) / d⟩
  else some ⟨nan, nan⟩

/-- The absolute value; it can be beyond the largest double for finite parts. -/
def abs (a : Complex) : Except Trouble Float :=
  if a.re.isInf || a.im.isInf then .ok infinity
  else if a.re.isNaN || a.im.isNaN then .ok nan
  else
    let r := hypot a.re a.im
    if r.isInf then .error .tooLarge else .ok r

/-- The angle to the positive real axis. -/
def phase (a : Complex) : Float := Float.atan2 a.im a.re

/-- A natural power by repeated squaring; `fuel` bounds the bits of the exponent. -/
def natPower : Nat → Complex → Nat → Complex → Complex
  | 0, _, _, acc => acc
  | fuel + 1, base, n, acc =>
    if n = 0 then acc
    else natPower fuel (base * base) (n / 2) (if n % 2 = 1 then acc * base else acc)

/-- A power with an integer exponent; a negative power of zero is undefined. -/
def intPower? (a : Complex) (n : Int) : Option Complex :=
  let p := natPower (n.natAbs.log2 + 1) a n.natAbs one
  if 0 < n then some p else div? one p

/-- A power in polar form; a negative or complex power of zero is undefined, and so is one
whose angle is infinite. -/
def polarPower? (a b : Complex) : Option Complex :=
  if b.re == 0 && b.im == 0 then some one
  else if a.re == 0 && a.im == 0 then
    if b.im != 0 || b.re < 0 then none else some ⟨0.0, 0.0⟩
  else
    let length := hypot a.re a.im
    let angle := Float.atan2 a.im a.re
    let scale := Float.pow length b.re
    let turn := angle * b.re
    let (scale, turn) :=
      if b.im != 0 then (scale / Float.exp (angle * b.im), turn + b.im * Float.log length)
      else (scale, turn)
    if turn.isInf then none else some ⟨scale * Float.cos turn, scale * Float.sin turn⟩

/-- The largest magnitude of an integer exponent that is taken as a repeated product. -/
def smallExponent : Float := 100.0

/-- Why a power has no value. -/
inductive PowerTrouble where
  | undefined
  | tooLarge
deriving Repr, DecidableEq

/-- The power of a complex number. -/
def power (a b : Complex) : Except PowerTrouble Complex :=
  let p? :=
    if b.im == 0 && isInteger b.re && b.re.abs ≤ smallExponent then
      intPower? a ((truncate? b.re).getD 0)
    else polarPower? a b
  match p? with
  | none => .error .undefined
  | some p => if p.re.isInf || p.im.isInf then .error .tooLarge else .ok p

end Complex
end QuantityCalculus
