/-
# The precision of a text

A reader asks for a count of significant digits by a value whose text is that count. The
count has to fit in 32 bits with a sign; beyond the digits that a double has it makes no
difference. Zero is written without regard to it, so that any value may ask for zero.

**Main statement.** A count that is granted is one that makes a difference
(`precisionOf_le`).
-/

import QuantityCalculus.Quantity.Basic

namespace QuantityCalculus

/-- A count of digits that no double reaches. -/
def mostPrecision : Nat := 1100

/-- The count of digits that a value asks for. -/
def precisionOf (asked : Json) : Except Misuse Nat :=
  let (digits, rest) := Number.takeDigits asked.plain.toList
  let count := Number.digitsValue digits
  if digits.isEmpty then .error .noPrecision
  else if 0x7FFFFFFFFFFFFFFF < count then .error .precisionTooLong
  else if !rest.isEmpty then .error (.precisionText asked.plain)
  else if 0x7FFFFFFF < count then .error .precisionTooLarge
  else .ok (min count mostPrecision)

/-- **A count that is granted** is one that makes a difference. -/
theorem precisionOf_le {asked : Json} {n : Nat} (h : precisionOf asked = .ok n) :
    n ≤ mostPrecision := by
  unfold precisionOf at h
  simp only at h
  split at h
  · cases h
  · split at h
    · cases h
    · split at h
      · cases h
      · split at h
        · cases h
        · cases h
          exact Nat.min_le_right _ _

namespace Quantity

variable {α : Type} [Scalar α]

/-- The count of digits that a quantity is written with. -/
def precisionFor (a : Quantity α) (asked : Json) : Except Misuse Nat :=
  if a.isTrue then precisionOf asked else .ok 1

/-- The text of a quantity for a reader who asks for a count of digits. -/
def textFor (a : Quantity α) (asked : Json) : Except Misuse String := do
  return a.text (← a.precisionFor asked)

end Quantity
end QuantityCalculus
