/-
# Signed zeros through JSON

Two doubles equal zero, and they differ in their sign. A complex number whose imaginary part equals
zero is written as its real part alone, so a negative zero there comes back as a positive one. All
else comes back as it was: real scalars, real parts, imaginary parts that are infinite or not
numbers, and units.

The sign of a zero says on which side of a branch cut a number lies, so the answers of later
evaluations can differ: `toQuantity_ofQuantity_below_cut`.

**Main statement.** `quantities_through_json`: what comes back, and which quantities come back as
they were.
-/

import QuantityCalculus.Complex.Elementary
import QuantityCalculus.Proofs.Scalar.Zero
import QuantityCalculus.Proofs.Snapshot.Values

namespace QuantityCalculus

/-! ### Complex scalars -/

/-- A complex number comes back with a positive zero for a negative one as its imaginary part. -/
theorem Complex.reloaded_eq_of_im (z : Complex) :
    Scalar.reloaded z = ⟨z.re, if z.im = -0.0 then 0.0 else z.im⟩ := by
  rw [Complex.reloaded_eq]
  by_cases h : (z.im == 0.0) = true
  · rw [if_pos h, Complex.ofReal]
    rcases Float.beq_zero_iff.1 h with him | him
    · rw [him, if_neg Float.zero_ne_negative_zero]
    · rw [him, if_pos rfl]
  · rw [if_neg h, if_neg fun him => h (Float.beq_zero_iff.2 (.inr him))]

/-- The complex numbers that come back as they were. -/
theorem Complex.reloaded_eq_self_iff {z : Complex} : Scalar.reloaded z = z ↔ z.im ≠ -0.0 := by
  rw [Complex.reloaded_eq_of_im]
  constructor
  · intro h him
    have hreloaded : (if z.im = -0.0 then 0.0 else z.im) = z.im := congrArg Complex.im h
    rw [if_pos him, him] at hreloaded
    exact Float.zero_ne_negative_zero hreloaded
  · intro him
    rw [if_neg him]

/-! ### Quantities -/

namespace Snapshot

/-- **What comes back of a quantity.** A real quantity comes back bit for bit. So does a complex one
unless its imaginary part is a negative zero, which comes back as a positive one; its real part and
its unit are what they were even then. -/
theorem quantities_through_json (x : Quantity Float) (z : Quantity Complex) :
    toQuantity (ofQuantity x) = .ok x ∧
    toQuantity (ofQuantity z) = .ok
      (⟨⟨z.scalar.re, if z.scalar.im = -0.0 then 0.0 else z.scalar.im⟩, z.units⟩ :
        Quantity Complex) ∧
    (toQuantity (ofQuantity z) = .ok z ↔ z.scalar.im ≠ -0.0) := by
  refine ⟨toQuantity_ofQuantity x, ?_, ?_⟩
  · rw [toQuantity_ofQuantity, Quantity.reloaded, Complex.reloaded_eq_of_im]
  · rw [toQuantity_ofQuantity, ← Complex.reloaded_eq_self_iff, Except.ok.injEq]
    exact ⟨fun h => congrArg Quantity.scalar h, fun h => by rw [Quantity.reloaded, h]⟩

/-- Numbers below the branch cut of the square root come back as numbers on it: `-4 - 0i` does not
come back, and the root of a negative number turns to its opposite. -/
theorem toQuantity_ofQuantity_below_cut :
    toQuantity (ofQuantity (⟨⟨-4.0, -0.0⟩, .none⟩ : Quantity Complex)) ≠
      .ok (⟨⟨-4.0, -0.0⟩, .none⟩ : Quantity Complex) ∧
    toQuantity (ofQuantity (⟨⟨-Number.infinity, -0.0⟩, .none⟩ : Quantity Complex)) =
      .ok (⟨⟨-Number.infinity, 0.0⟩, .none⟩ : Quantity Complex) ∧
    (Complex.sqrt ⟨-Number.infinity, -0.0⟩).im = -Number.infinity ∧
    (Complex.sqrt ⟨-Number.infinity, 0.0⟩).im = Number.infinity := by
  refine ⟨fun h => ?_, ?_, by decide +kernel, by decide +kernel⟩
  · rw [toQuantity_ofQuantity, Except.ok.injEq] at h
    have hscalar : Scalar.reloaded (⟨-4.0, -0.0⟩ : Complex) = ⟨-4.0, -0.0⟩ :=
      congrArg Quantity.scalar h
    exact Complex.reloaded_eq_self_iff.1 hscalar rfl
  · rw [toQuantity_ofQuantity, Quantity.reloaded, Complex.reloaded_eq_of_im, if_pos rfl]

end Snapshot
end QuantityCalculus
