/-
# Integers of 64 bits with a sign

Bitwise operators and shifts take integers of any size. A negative integer has all bits set from
some place on, so the operators act on natural numbers and their complements. A result is cut to
64 bits, of which the highest one is the sign: after a bitwise operation, and before and after a
shift to the left. A shift to the right is made of an integer that was cut before.
-/

namespace QuantityCalculus
namespace Bitwise

/-- The bits of `m` that `n` does not have. -/
def without (m n : Nat) : Nat := m ^^^ (m &&& n)

/-- The bitwise disjunction of integers of any size. -/
def disjunction : Int → Int → Int
  | .ofNat m, .ofNat n => .ofNat (m ||| n)
  | .ofNat m, .negSucc n => .negSucc (without n m)
  | .negSucc m, .ofNat n => .negSucc (without m n)
  | .negSucc m, .negSucc n => .negSucc (m &&& n)

/-- The bitwise conjunction of integers of any size. -/
def conjunction : Int → Int → Int
  | .ofNat m, .ofNat n => .ofNat (m &&& n)
  | .ofNat m, .negSucc n => .ofNat (without m n)
  | .negSucc m, .ofNat n => .ofNat (without n m)
  | .negSucc m, .negSucc n => .negSucc (m ||| n)

/-- The lowest 64 bits. -/
def mask : Int := 0xFFFFFFFFFFFFFFFF

/-- The integer of 64 bits with a sign that has the same lowest 64 bits. -/
def wrap (n : Int) : Int :=
  let r := conjunction n mask
  if 0x8000000000000000 ≤ r then r - 0x10000000000000000 else r

/-- The bitwise disjunction. -/
def or (l r : Int) : Int := wrap (disjunction l r)

/-- The bitwise conjunction. -/
def and (l r : Int) : Int := wrap (conjunction l r)

/-- The amount of a shift: the lowest six bits. -/
def amount (r : Int) : Nat := (conjunction r 63).toNat

/-- The shift to the left; bits beyond the sign are lost. -/
def shiftLeft (l r : Int) : Int := wrap (wrap l <<< amount r)

/-- The shift to the right, which keeps the sign. -/
def shiftRight (l r : Int) : Int := wrap l >>> amount r

end Bitwise
end QuantityCalculus
