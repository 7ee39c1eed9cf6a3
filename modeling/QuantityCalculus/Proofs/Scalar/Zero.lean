/-
# Zeros as divisors

Two doubles equal zero, and they differ in their sign. The absolute value of a double is what one
expects: the sign is positive, and all else is as it was. So the absolute value of a double other
than zero is above zero, and a quotient of complex numbers, which compares the absolute values of
both parts of the divisor, has a result unless the divisor equals zero.

**Main statements.** `Float.beq_zero_iff`, `Float.unpack_abs` and `Scalar.Divides`, of which both
kinds of scalars are instances.
-/

import Mathlib
import QuantityCalculus.Scalar.Complex

namespace QuantityCalculus

open Float.Model
open Float.Model.UnpackedFloat (packComponents unpackExponent unpackMantissa)

/-! ### The two zeros -/

theorem Float.ofNat_zero : (0 : Float) = 0.0 := by decide +kernel

theorem Float.zero_ne_negative_zero : (0.0 : Float) ≠ -0.0 := by decide +kernel

/-- **A double that equals zero** is one of the two zeros. -/
theorem Float.beq_zero_iff {x : Float} : (x == 0.0) = true ↔ x = 0.0 ∨ x = -0.0 := by
  constructor
  · intro h
    rw [← Float.ofNat_zero, Float.beq_iff_ne_nan_and_eq] at h
    rcases h with ⟨-, -, hx | ⟨hx, -⟩ | ⟨hx, -⟩⟩
    · exact .inl (hx.trans Float.ofNat_zero)
    · exact .inl (hx.trans Float.ofNat_zero)
    · exact .inr (hx.trans (congrArg Neg.neg Float.ofNat_zero))
  · rintro (rfl | rfl) <;> decide +kernel

/-- What equals zero stands for a zero. -/
theorem Float.unpack_of_beq_zero {x : Float} (h : (x == 0.0) = true) :
    ∃ s, x.toModel.unpack = .zero s := by
  rcases Float.beq_zero_iff.1 h with rfl | rfl
  · exact ⟨.positive, by rfl⟩
  · exact ⟨.negative, by rfl⟩

theorem Float.beq_zero_of_unpack {x : Float} {s : UnpackedFloat.Sign}
    (h : x.toModel.unpack = .zero s) : (x == 0.0) = true := by
  have hzero : (0.0 : Float).toModel.unpack = .zero .positive := by rfl
  show x.toModel.unpack.beq (0.0 : Float).toModel.unpack = true
  rw [h, hzero]
  rfl

/-! ### Absolute values -/

/-- Packing keeps what bits stand for. -/
theorem unpack_pack_unpack (b : BitVec 64) :
    UnpackedFloat.unpack Format.binary64
        (UnpackedFloat.pack Format.binary64 (UnpackedFloat.unpack Format.binary64 b)) =
      UnpackedFloat.unpack Format.binary64 b := by
  rw [UnpackedFloat.pack_unpack]
  split
  · rename_i hnan
    have hnan : @unpackExponent Format.binary64 b = -1#11 ∧
        @unpackMantissa Format.binary64 b ≠ 0#52 := of_decide_eq_true hnan
    rw [UnpackedFloat.unpack_packedNaN, UnpackedFloat.unpack, if_pos hnan.1, if_neg hnan.2]
  · rfl

/-- A positive sign instead of any other gives the absolute value. -/
theorem abs_unpack (b : BitVec 64) :
    (UnpackedFloat.unpack Format.binary64 b).abs =
      UnpackedFloat.unpack Format.binary64
        (packComponents Format.binary64 .positive (unpackExponent b) (unpackMantissa b)) := by
  unfold UnpackedFloat.unpack
  simp only [UnpackedFloat.unpackExponent_packComponents,
    UnpackedFloat.unpackMantissa_packComponents, UnpackedFloat.unpackSign_packComponents,
    UnpackedFloat.Sign.ofBitVec_toBitVec]
  split_ifs <;> rfl

/-- **The absolute value of a double** is that of the number which it stands for. -/
theorem Float.unpack_abs (x : Float) : x.abs.toModel.unpack = x.toModel.unpack.abs := by
  show UnpackedFloat.unpack Format.binary64
    (UnpackedFloat.pack Format.binary64 x.toModel.unpack.abs) = x.toModel.unpack.abs
  rw [Float.Model.unpack, abs_unpack, unpack_pack_unpack]

/-- Only zeros have zero as their absolute value. -/
theorem Float.beq_zero_of_abs {x : Float} (h : (x.abs == 0.0) = true) : (x == 0.0) = true := by
  obtain ⟨s, hs⟩ := Float.unpack_of_beq_zero h
  rw [Float.unpack_abs] at hs
  cases hx : x.toModel.unpack with
  | zero t => exact Float.beq_zero_of_unpack hx
  | infinity t | notANumber | finite t m e hm =>
    rw [hx] at hs
    cases hs

/-- Only zeros have an absolute value that is not above zero. -/
theorem Float.beq_zero_of_abs_le {x y : Float} (h : x.abs ≤ y) (hy : (y == 0.0) = true) :
    (x == 0.0) = true := by
  obtain ⟨s, hs⟩ := Float.unpack_of_beq_zero hy
  have hle : x.abs.toModel.unpack.le y.toModel.unpack = true :=
    of_decide_eq_true (p := x.abs.toModel ≤ y.toModel) h
  rw [Float.unpack_abs, hs] at hle
  cases hx : x.toModel.unpack with
  | zero t => exact Float.beq_zero_of_unpack hx
  | infinity t | notANumber | finite t m e hm =>
    rw [hx] at hle
    cases hle

/-! ### Division -/

/-- A kind of scalars in which everything that counts as true divides. -/
class Scalar.Divides (α : Type) [Scalar α] : Prop where
  div_eq_ok : ∀ x : α, ∀ {y : α}, Scalar.isTrue y = true → ∃ q, Scalar.div x y = .ok q

instance : Scalar.Divides Float where
  div_eq_ok x y hy := by
    have hy : (!(y == 0.0)) = true := hy
    rw [Bool.not_eq_true', ← Float.ofNat_zero] at hy
    refine ⟨x / y, ?_⟩
    show (if y == 0 then .error .divisionByZero else .ok (x / y) : Except Invalid Float) = _
    rw [hy]
    rfl

/-- A quotient has no value only where both parts of the divisor are zeros. -/
theorem Complex.eq_zero_of_div? {a b : Complex} (h : Complex.div? a b = none) :
    b.eq (Complex.ofReal 0.0) = true := by
  unfold Complex.div? at h
  split at h
  · rename_i hle
    split at h
    · rename_i hzero
      rw [Float.ofNat_zero] at hzero
      rw [Complex.eq, Complex.ofReal, Bool.and_eq_true]
      exact ⟨Float.beq_zero_of_abs hzero, Float.beq_zero_of_abs_le hle hzero⟩
    · cases h
  · split at h <;> cases h

instance : Scalar.Divides Complex where
  div_eq_ok x y hy := by
    cases hq : Complex.div? x y with
    | none =>
      have hzero : (!y.eq (Complex.ofReal 0.0)) = true := hy
      rw [Complex.eq_zero_of_div? hq] at hzero
      cases hzero
    | some q => exact ⟨q, by simp only [Scalar.div, hq]⟩

end QuantityCalculus
