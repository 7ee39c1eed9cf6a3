/-
# The nearest double depends on the number alone

A ratio is rounded to a double by shifts of its numerator and its denominator. What comes out
depends on the ratio only: the position of the last bit is found by its binary logarithm, and the
rounded quotient does not change when both parts are multiplied by the same number. So a decimal
number has the same double in whatever way it is written. The magnitudes for which reading a number
does not compute the ratio are those that are rounded to zero and to infinity anyway.

**Main statements.** `lastBit_eq` and `roundHalfEven_mul_mul`, from which `nearestBits_mul_mul`
follows; `ofDecimal_eq_ofRatio`: no magnitude is an exception; `ofDecimal_eq_ofRat`.
-/

import Mathlib.Algebra.Order.Field.Power
import Mathlib.Data.Int.Log
import Mathlib.Data.Rat.Floor
import Mathlib.Data.Rat.Lemmas
import Mathlib.Tactic.GCongr
import Mathlib.Tactic.Linarith
import Mathlib.Tactic.Positivity
import QuantityCalculus.Number.Literal

namespace QuantityCalculus
namespace Number

variable {num den k : ℕ}

/-- **A quotient is rounded the same** when numerator and denominator are multiplied. -/
theorem roundHalfEven_mul_mul (hk : 0 < k) (num den : ℕ) :
    roundHalfEven (k * num) (k * den) = roundHalfEven num den := by
  have hbelow : 2 * (k * (num % den)) < k * den ↔ 2 * (num % den) < den := by
    rw [Nat.mul_left_comm, Nat.mul_lt_mul_left hk]
  have habove : k * den < 2 * (k * (num % den)) ↔ den < 2 * (num % den) := by
    rw [Nat.mul_left_comm, Nat.mul_lt_mul_left hk]
  simp only [roundHalfEven, Nat.mul_div_mul_left _ _ hk, Nat.mul_mod_mul_left, hbelow, habove]

/-- The exponents of the powers of two around a natural number. -/
theorem two_zpow_log2_le (h : num ≠ 0) :
    (2 : ℚ) ^ (num.log2 : ℤ) ≤ num ∧ (num : ℚ) < 2 ^ ((num.log2 : ℤ) + 1) := by
  have hle : (2 : ℕ) ^ num.log2 ≤ num := Nat.log2_self_le h
  have hlt : num < (2 : ℕ) ^ (num.log2 + 1) := Nat.lt_log2_self
  exact ⟨by exact_mod_cast hle, by exact_mod_cast hlt⟩

/-- Splitting a power of two with an integer exponent between two naturals. -/
theorem lt_mul_two_zpow_iff (num : ℕ) (hd : den ≠ 0) (g : ℤ) :
    num * Nat.pow 2 (-g).toNat < den * Nat.pow 2 g.toNat ↔ (num : ℚ) / den < 2 ^ g := by
  have hden : (0 : ℚ) < den := by exact_mod_cast Nat.pos_of_ne_zero hd
  have hsplit : (2 : ℚ) ^ g * 2 ^ (-g).toNat = 2 ^ g.toNat := by
    rw [← zpow_natCast, ← zpow_natCast, ← zpow_add₀ two_ne_zero]
    congr 1
    omega
  have hpos : (0 : ℚ) < 2 ^ (-g).toNat := by positivity
  rw [div_lt_iff₀ hden, ← mul_lt_mul_iff_left₀ hpos, mul_right_comm, hsplit, mul_comm _ (den : ℚ)]
  exact_mod_cast Iff.rfl

/-- **The position of the last bit** is found by the binary logarithm of the ratio. -/
theorem lastBit_eq (hn : num ≠ 0) (hd : den ≠ 0) :
    lastBit num den = max (-1074) (Int.log 2 ((num : ℚ) / den) - 52) := by
  have hnum : (0 : ℚ) < num := by exact_mod_cast Nat.pos_of_ne_zero hn
  have hden : (0 : ℚ) < den := by exact_mod_cast Nat.pos_of_ne_zero hd
  have hratio : (0 : ℚ) < (num : ℚ) / den := by positivity
  obtain ⟨hnl, hnu⟩ := two_zpow_log2_le hn
  obtain ⟨hdl, hdu⟩ := two_zpow_log2_le hd
  -- the difference of the logarithms is the logarithm of the ratio or one more
  have hlow : (2 : ℚ) ^ ((num.log2 : ℤ) - den.log2 - 1) ≤ (num : ℚ) / den := by
    rw [le_div_iff₀ hden]
    calc (2 : ℚ) ^ ((num.log2 : ℤ) - den.log2 - 1) * den
        ≤ 2 ^ ((num.log2 : ℤ) - den.log2 - 1) * 2 ^ ((den.log2 : ℤ) + 1) := by gcongr
      _ = 2 ^ (num.log2 : ℤ) := by
        rw [← zpow_add₀ two_ne_zero]
        congr 1
        omega
      _ ≤ num := hnl
  have hhigh : (num : ℚ) / den < 2 ^ ((num.log2 : ℤ) - den.log2 + 1) := by
    rw [div_lt_iff₀ hden]
    calc (num : ℚ) < 2 ^ ((num.log2 : ℤ) + 1) := hnu
      _ = 2 ^ ((num.log2 : ℤ) - den.log2 + 1) * 2 ^ (den.log2 : ℤ) := by
        rw [← zpow_add₀ two_ne_zero]
        congr 1
        omega
      _ ≤ 2 ^ ((num.log2 : ℤ) - den.log2 + 1) * den := by gcongr
  have hle := (Int.zpow_le_iff_le_log (b := 2) one_lt_two hratio).1 hlow
  have hlt := (Int.lt_zpow_iff_log_lt (b := 2) one_lt_two hratio).1 hhigh
  have hbelow := (lt_mul_two_zpow_iff num hd ((num.log2 : ℤ) - den.log2)).trans
    (Int.lt_zpow_iff_log_lt (b := 2) one_lt_two hratio)
  unfold lastBit
  dsimp only
  split
  · rename_i h
    have := hbelow.1 h
    congr 1
    omega
  · rename_i h
    have := fun hlog => h (hbelow.2 hlog)
    congr 1
    omega

/-- **The nearest double depends on the ratio alone.** -/
theorem nearestBits_mul_mul (hk : 0 < k) (hd : den ≠ 0) (num : ℕ) :
    nearestBits (k * num) (k * den) = nearestBits num den := by
  by_cases hn : num = 0
  · simp [nearestBits, hn]
  have hkn : k * num ≠ 0 := Nat.mul_ne_zero hk.ne' hn
  have hkd : k * den ≠ 0 := Nat.mul_ne_zero hk.ne' hd
  have hkq : (k : ℚ) ≠ 0 := by exact_mod_cast hk.ne'
  have hratio : ((k * num : ℕ) : ℚ) / (k * den : ℕ) = (num : ℚ) / den := by
    push_cast
    exact mul_div_mul_left _ _ hkq
  have hlast : lastBit (k * num) (k * den) = lastBit num den := by
    rw [lastBit_eq hkn hkd, lastBit_eq hn hd, hratio]
  simp only [nearestBits, hn, hkn, if_false, hlast, Nat.mul_assoc, roundHalfEven_mul_mul hk]

/-- A ratio has the double of its rational number. -/
theorem ofRatio_eq_ofRat (hd : den ≠ 0) (num : ℕ) :
    ofRatio false num den = ofRat ((num : ℚ) / den) := by
  have hdz : (den : ℤ) ≠ 0 := by exact_mod_cast hd
  obtain ⟨c, hnum, hden⟩ := Rat.exists_eq_mul_div_num_and_eq_mul_div_den num hdz
  push_cast at hnum hden
  set q : ℚ := (num : ℚ) / den
  have hq : 0 ≤ q := by positivity
  have hqnum : 0 ≤ q.num := Rat.num_nonneg.2 hq
  have hc : 0 < c := by
    have hdpos : (0 : ℤ) < den := by omega
    rw [hden] at hdpos
    exact pos_of_mul_pos_left hdpos (Int.natCast_nonneg _)
  obtain ⟨k, rfl⟩ := Int.eq_ofNat_of_zero_le hc.le
  obtain ⟨n, hn⟩ := Int.eq_ofNat_of_zero_le hqnum
  have hk : 0 < k := by exact_mod_cast hc
  have hnum : num = k * n := by
    rw [hn] at hnum
    exact_mod_cast hnum
  have hden : den = k * q.den := by exact_mod_cast hden
  have hsign : decide (q.num < 0) = false := decide_eq_false (not_lt.2 hqnum)
  have hbits : nearestBits num den = nearestBits n q.den := by
    rw [hnum, hden, nearestBits_mul_mul hk q.den_ne_zero]
  rw [ofRat, hsign, hn, ofRatio, hbits]
  rfl

/-! ### Decimal numbers -/

theorem roundHalfEven_of_lt (h : 2 * num < den) : roundHalfEven num den = 0 := by
  have hlt : num < den := by omega
  simp [roundHalfEven, Nat.div_eq_of_lt hlt, Nat.mod_eq_of_lt hlt, h]

/-- Far above the largest double there is infinity. -/
theorem nearestBits_of_large (hn : num ≠ 0) (hd : den ≠ 0)
    (h : 1025 ≤ Int.log 2 ((num : ℚ) / den)) : nearestBits num den = infinityBits := by
  have hlast : 973 ≤ lastBit num den := by
    rw [lastBit_eq hn hd]
    omega
  simp only [nearestBits, hn, if_false, infinityBits]
  omega

/-- Far below the smallest double there is zero. -/
theorem nearestBits_of_small (hn : num ≠ 0) (hd : den ≠ 0)
    (h : Int.log 2 ((num : ℚ) / den) < -1075) : nearestBits num den = 0 := by
  have hnum : (0 : ℚ) < num := by exact_mod_cast Nat.pos_of_ne_zero hn
  have hden : (0 : ℚ) < den := by exact_mod_cast Nat.pos_of_ne_zero hd
  obtain ⟨e, he, hlast⟩ : ∃ e, e = -1074 ∧ lastBit num den = e := by
    refine ⟨-1074, rfl, ?_⟩
    rw [lastBit_eq hn hd]
    omega
  have hhalf : (num : ℚ) / den < 2 ^ (e - 1) := by
    refine (Int.lt_zpow_iff_log_lt one_lt_two (by positivity)).2 ?_
    omega
  have hshifted := (lt_mul_two_zpow_iff num hd (e - 1)).2 hhalf
  have hmantissa : roundHalfEven (num * Nat.pow 2 (-e).toNat) (den * Nat.pow 2 e.toNat) = 0 := by
    refine roundHalfEven_of_lt ?_
    have hmore : (-(e - 1)).toNat = (-e).toNat + 1 := by omega
    have hless : (e - 1).toNat = e.toNat := by omega
    calc 2 * (num * Nat.pow 2 (-e).toNat) = num * Nat.pow 2 (-(e - 1)).toNat := by
          rw [hmore, Nat.pow_eq, Nat.pow_eq, pow_succ]
          ring
      _ < den * Nat.pow 2 e.toNat := hless ▸ hshifted
  have hfield : (e + 1074).toNat = 0 := by omega
  simp only [nearestBits, hn, if_false, hlast, hmantissa, hfield]
  rfl

/-- A power of ten is above the power of two with three times its exponent. -/
theorem two_pow_le_ten_pow (n : ℕ) : (2 : ℚ) ^ (3 * n) ≤ 10 ^ n := by
  rw [pow_mul]
  gcongr
  norm_num

theorem le_log_of_ten_zpow_le {x : ℚ} {n : ℕ} (h : (10 : ℚ) ^ (n : ℤ) ≤ x) :
    3 * (n : ℤ) ≤ Int.log 2 x := by
  have hx : 0 < x := lt_of_lt_of_le (by positivity) h
  rw [← Int.zpow_le_iff_le_log one_lt_two hx]
  refine le_trans ?_ h
  exact_mod_cast two_pow_le_ten_pow n

theorem log_lt_of_lt_ten_zpow {x : ℚ} {n : ℕ} (hx : 0 < x) (h : x < (10 : ℚ) ^ (-(n : ℤ))) :
    Int.log 2 x < -(3 * (n : ℤ)) := by
  rw [← Int.lt_zpow_iff_log_lt one_lt_two hx]
  refine lt_of_lt_of_le h ?_
  rw [zpow_neg, zpow_neg]
  have hpow : ((2 : ℕ) : ℚ) ^ (3 * (n : ℤ)) ≤ 10 ^ (n : ℤ) := by
    exact_mod_cast two_pow_le_ten_pow n
  gcongr

/-- The powers of ten around a natural number, by the number of its digits. -/
theorem ten_zpow_length_le {n : ℕ} (h : n ≠ 0) :
    (10 : ℚ) ^ (((Nat.toDigits 10 n).length : ℤ) - 1) ≤ n ∧
      (n : ℚ) < 10 ^ ((Nat.toDigits 10 n).length : ℤ) := by
  have hpos : 0 < (Nat.toDigits 10 n).length := Nat.length_toDigits_pos
  obtain ⟨k, hk⟩ : ∃ k, (Nat.toDigits 10 n).length = k + 1 := ⟨_, (Nat.succ_pred hpos.ne').symm⟩
  have hlow : 10 ^ k ≤ n := by
    cases k with
    | zero => simpa using Nat.one_le_iff_ne_zero.2 h
    | succ k =>
      have := (Nat.length_toDigits_le_iff (b := 10) (n := n) (k := k + 1) (by decide)
        (Nat.succ_pos k)).not
      omega
  have hhigh : n < 10 ^ (k + 1) :=
    (Nat.length_toDigits_le_iff (by decide) (Nat.succ_pos k)).1 hk.le
  rw [hk]
  push_cast
  rw [add_sub_cancel_right]
  exact ⟨by exact_mod_cast hlow, by exact_mod_cast hhigh⟩

/-- A decimal number as the ratio that is rounded. -/
theorem decimal_ratio (digits : ℕ) (exponent : ℤ) :
    ((digits * Nat.pow 10 exponent.toNat : ℕ) : ℚ) / (Nat.pow 10 (-exponent).toNat : ℕ) =
      digits * 10 ^ exponent := by
  have hsplit : (10 : ℚ) ^ exponent * 10 ^ (-exponent).toNat = 10 ^ exponent.toNat := by
    rw [← zpow_natCast, ← zpow_natCast, ← zpow_add₀ (by norm_num)]
    congr 1
    omega
  rw [Nat.pow_eq, Nat.pow_eq]
  push_cast
  rw [div_eq_iff (by positivity), mul_assoc, hsplit]

/-- **Reading a decimal number rounds its ratio,** also where the ratio is not computed. -/
theorem ofDecimal_eq_ofRatio (negative : Bool) (digits : ℕ) (exponent : ℤ) :
    ofDecimal negative digits exponent =
      ofRatio negative (digits * Nat.pow 10 exponent.toNat) (Nat.pow 10 (-exponent).toNat) := by
  by_cases hn : digits = 0
  · subst hn
    simp [ofDecimal, ofRatio, nearestBits]
  have hd : Nat.pow 10 (-exponent).toNat ≠ 0 := (Nat.pow_pos (by decide)).ne'
  have hnum : digits * Nat.pow 10 exponent.toNat ≠ 0 :=
    Nat.mul_ne_zero hn (Nat.pow_pos (by decide)).ne'
  have hdigits : (0 : ℚ) < digits := by exact_mod_cast Nat.pos_of_ne_zero hn
  obtain ⟨hlow, hhigh⟩ := ten_zpow_length_le hn
  set length : ℤ := ((Nat.toDigits 10 digits).length : ℤ) with hlength
  have hlow : (10 : ℚ) ^ (length - 1 + exponent) ≤ digits * 10 ^ exponent := by
    rw [zpow_add₀ (by norm_num)]
    gcongr
  have hhigh : (digits : ℚ) * 10 ^ exponent < 10 ^ (length + exponent) := by
    rw [zpow_add₀ (by norm_num)]
    gcongr
  rw [← decimal_ratio] at hlow hhigh
  unfold ofDecimal
  dsimp only
  rw [if_neg hn, ← hlength]
  split
  · have hten : (10 : ℚ) ^ ((400 : ℕ) : ℤ) ≤ 10 ^ (length - 1 + exponent) :=
      zpow_le_zpow_right₀ (by norm_num) (by omega)
    have hlog := le_log_of_ten_zpow_le (hten.trans hlow)
    have hbits := nearestBits_of_large hnum hd (by omega)
    rw [ofRatio, hbits]
    cases negative <;> decide +kernel
  · split
    · have hten : (10 : ℚ) ^ (length + exponent) ≤ 10 ^ (-((400 : ℕ) : ℤ)) :=
        zpow_le_zpow_right₀ (by norm_num) (by omega)
      have hpos : (0 : ℚ) < ((digits * Nat.pow 10 exponent.toNat : ℕ) : ℚ) /
          (Nat.pow 10 (-exponent).toNat : ℕ) := by
        rw [decimal_ratio]
        positivity
      have hlog := log_lt_of_lt_ten_zpow hpos (hhigh.trans_le hten)
      have hbits := nearestBits_of_small hnum hd (by omega)
      rw [ofRatio, ofRatio, hbits]
      rfl
    · rfl

/-- **A decimal number is read as the double nearest to it,** however it is written. -/
theorem ofDecimal_eq_ofRat (digits : ℕ) (exponent : ℤ) :
    ofDecimal false digits exponent = ofRat (digits * 10 ^ exponent) := by
  have hd : Nat.pow 10 (-exponent).toNat ≠ 0 := (Nat.pow_pos (by decide)).ne'
  rw [ofDecimal_eq_ofRatio, ofRatio_eq_ofRat hd, decimal_ratio]

end Number
end QuantityCalculus
