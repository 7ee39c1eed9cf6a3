/-
# Decimal digits of a double

Two ways to write a double with decimal digits: the fewest digits that read back to the
same double, and a fixed count of significant digits. Both are found on the exact value
`m * 2 ^ q`, by trying the decimal grids from coarse to fine.

**Main statement.** What the shortest search returns lies in the interval of reals that
round to the double (`shortest?_readsBack`).
-/

import QuantityCalculus.Number.Binary

namespace QuantityCalculus
namespace Number

/-- The decimal value `digits * 10 ^ exponent`. -/
structure Digits where
  digits : Nat
  exponent : Int
deriving Repr, DecidableEq

/-- The gap below a power of two is half the gap above it, except at the bottom of the
range. -/
def Binary.narrowBelow (b : Binary) : Bool := b.mantissa == 0x10000000000000 && b.exponent > -1074

/-- The order of `d * 10 ^ e` and `m * 2 ^ q`, decided in naturals. -/
def compareScaled (d : Nat) (e : Int) (m : Nat) (q : Int) : Ordering :=
  compare (d * Nat.pow 10 e.toNat * Nat.pow 2 (-q).toNat)
    (m * Nat.pow 2 q.toNat * Nat.pow 10 (-e).toNat)

/-- Whether a decimal lies among the reals that round to the double: between the
half-way points to its neighbours, the ends included when the mantissa is even. -/
def Binary.readsBack (b : Binary) (d : Digits) : Bool :=
  let low := if b.narrowBelow then 4 * b.mantissa - 1 else 4 * b.mantissa - 2
  let high := 4 * b.mantissa + 2
  let closed := b.mantissa % 2 == 0
  let belowEnd := compareScaled d.digits d.exponent low (b.exponent - 2)
  let aboveEnd := compareScaled d.digits d.exponent high (b.exponent - 2)
  (belowEnd == .gt || (closed && belowEnd == .eq)) &&
    (aboveEnd == .lt || (closed && aboveEnd == .eq))

/-- The least `k` with `m * 2 ^ q < 10 ^ k`: a guess from the binary logarithm, and the
exact comparison with the powers of ten around it. -/
def Binary.scale (b : Binary) : Int :=
  let guess := ((b.mantissa.log2 + b.exponent) * 30103).fdiv 100000
  let under (k : Int) : Bool := compareScaled 1 k b.mantissa b.exponent == .gt
  if under guess then guess else if under (guess + 1) then guess + 1 else guess + 2

/-- The decimal of the given count of digits that reads back, if a neighbour of the
value on that grid does; of two the nearer, and of two equally near the even one. -/
def Binary.onGrid? (b : Binary) (scale : Int) (count : Nat) : Option Digits :=
  let grid := scale - count
  let num := b.num * Nat.pow 10 (-grid).toNat
  let den := b.den * Nat.pow 10 grid.toNat
  let down := num / den
  let nearest := roundHalfEven num den
  let other := if nearest = down then down + 1 else down
  [nearest, other].findSome? fun d =>
    if b.readsBack ⟨d, grid⟩ then some ⟨d, grid⟩ else none

/-- The fewest digits that read back, tried from one to seventeen. -/
def Binary.shortest? (b : Binary) : Option Digits :=
  (List.range' 1 17).findSome? (b.onGrid? b.scale)

/-- The fewest digits that read back; the exact value if seventeen were not enough. -/
def Binary.shortest (b : Binary) : Digits :=
  (b.shortest?).getD
    ⟨b.mantissa * Nat.pow 2 b.exponent.toNat * Nat.pow 5 (-b.exponent).toNat, min b.exponent 0⟩

/-- **The shortest digits read back** to the double they were made for. -/
theorem Binary.shortest?_readsBack {b : Binary} {d : Digits} (h : b.shortest? = some d) :
    b.readsBack d = true := by
  obtain ⟨n, _, hn⟩ := List.exists_of_findSome?_eq_some h
  obtain ⟨c, _, hc⟩ := List.exists_of_findSome?_eq_some hn
  simp only [Option.ite_none_right_eq_some, Option.some.injEq] at hc
  exact hc.2 ▸ hc.1

/-- The value rounded to `count` significant digits, a half going to the even digit. -/
def Binary.significant (b : Binary) (count : Nat) : Digits :=
  let scale := b.scale
  let grid := scale - count
  let d := roundHalfEven (b.num * Nat.pow 10 (-grid).toNat) (b.den * Nat.pow 10 grid.toNat)
  ⟨d, grid⟩

end Number
end QuantityCalculus
