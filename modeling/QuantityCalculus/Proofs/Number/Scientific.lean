/-
# Products of decimal numbers

To round at a place is to go to the nearest multiple of a power of ten, of two equally near ones to
the even one. To round to some digits is to do this at the place of the last of them. What comes out
is determined by the number, whichever way it was found; so it is also what comes out where a
product has fewer digits than are kept, and where the last of them would be below the least place
but is a zero.

**Main statements.** `NearestAt.unique`: there is only one result; `exists_roundsTo`: there is one;
`fix_of_roundsTo` and `mul_of_roundsTo`: a product is rounded to 28 digits, unless the result is out
of range.
-/

import QuantityCalculus.Number.Scientific
import QuantityCalculus.Proofs.Number.Nearest

namespace QuantityCalculus
namespace Number

variable {x y r s : ℚ} {place e : ℤ} {count c num den : ℕ}

/-! ### Rounding -/

/-- `r` is the multiple of a power of ten that is nearest to `x`; of two it is the even one. -/
def NearestAt (place : ℤ) (x r : ℚ) : Prop :=
  ∃ n : ℤ, r = n * 10 ^ place ∧ |x - r| ≤ 10 ^ place / 2 ∧ (|x - r| = 10 ^ place / 2 → Even n)

/-- `r` is `x` with a count of significant digits: the place is that of the last of them. -/
def RoundsTo (count : ℕ) (x r : ℚ) : Prop :=
  x = 0 ∧ r = 0 ∨
    ∃ place : ℤ, 10 ^ (place + count - 1) ≤ |x| ∧ |x| < 10 ^ (place + count) ∧ NearestAt place x r

theorem ten_zpow_pos (k : ℤ) : (0 : ℚ) < 10 ^ k := by positivity

theorem ten_zpow_le_iff {j k : ℤ} : (10 : ℚ) ^ j ≤ 10 ^ k ↔ j ≤ k :=
  zpow_le_zpow_iff_right₀ (by norm_num)

theorem ten_zpow_lt_iff {j k : ℤ} : (10 : ℚ) ^ j < 10 ^ k ↔ j < k :=
  zpow_lt_zpow_iff_right₀ (by norm_num)

/-- A greater power of ten is a multiple of a less one. -/
theorem ten_zpow_eq_mul {j k : ℤ} (h : j ≤ k) :
    (10 : ℚ) ^ k = ((10 ^ (k - j).toNat : ℕ) : ℚ) * 10 ^ j := by
  push_cast
  rw [← zpow_natCast, ← zpow_add₀ (by norm_num)]
  congr 1
  omega

/-- **There is only one nearest multiple.** -/
theorem NearestAt.unique (hr : NearestAt place x r) (hs : NearestAt place x s) : r = s := by
  obtain ⟨n, rfl, hn, hneven⟩ := hr
  obtain ⟨m, rfl, hm, hmeven⟩ := hs
  have hp : (0 : ℚ) < 10 ^ place := ten_zpow_pos place
  by_contra hne
  have hne : n ≠ m := fun h => hne (by rw [h])
  have hapart : (1 : ℚ) ≤ |(n : ℚ) - m| := by
    have : 1 ≤ |n - m| := Int.one_le_abs (sub_ne_zero.2 hne)
    exact_mod_cast this
  have hdistance : |(n : ℚ) - m| * 10 ^ place ≤
      |x - n * 10 ^ place| + |x - m * 10 ^ place| := by
    calc |(n : ℚ) - m| * 10 ^ place
        = |(n * 10 ^ place - x) + (x - m * 10 ^ place)| := by
          rw [sub_add_sub_cancel, ← sub_mul, abs_mul, abs_of_pos hp]
      _ ≤ |n * 10 ^ place - x| + |x - m * 10 ^ place| := abs_add_le _ _
      _ = |x - n * 10 ^ place| + |x - m * 10 ^ place| := by rw [abs_sub_comm]
  have hle : (10 : ℚ) ^ place ≤ |(n : ℚ) - m| * 10 ^ place := le_mul_of_one_le_left hp.le hapart
  -- both are at half the distance, so both are even
  obtain ⟨i, hi⟩ := hneven (by linarith)
  obtain ⟨j, hj⟩ := hmeven (by linarith)
  have hone : |(n : ℚ) - m| ≤ 1 := by
    refine le_of_mul_le_mul_right ?_ hp
    linarith
  have hone : |n - m| ≤ 1 := by exact_mod_cast hone
  rw [abs_le] at hone
  omega

/-- What is not below a multiple is not rounded to less. -/
theorem NearestAt.le_of_le {n : ℤ} (h : NearestAt place x r) (hx : n * 10 ^ place ≤ x) :
    n * 10 ^ place ≤ r := by
  obtain ⟨m, rfl, hm, -⟩ := h
  have hp : (0 : ℚ) < 10 ^ place := ten_zpow_pos place
  have hless : ((n : ℚ) - 1) * 10 ^ place < m * 10 ^ place := by
    have := (abs_le.1 hm).2
    linarith
  have hless : n - 1 < m := by exact_mod_cast lt_of_mul_lt_mul_right hless hp.le
  have hle : (n : ℚ) ≤ m := by exact_mod_cast (by omega : n ≤ m)
  gcongr

theorem NearestAt.neg (h : NearestAt place x r) : NearestAt place (-x) (-r) := by
  obtain ⟨n, rfl, hn, heven⟩ := h
  have hsame : |-x - -(n * 10 ^ place)| = |x - n * 10 ^ place| := by
    rw [← neg_sub', abs_neg]
  exact ⟨-n, by push_cast; ring, hsame ▸ hn, fun htie => (heven (hsame ▸ htie)).neg⟩

theorem RoundsTo.neg (h : RoundsTo count x r) : RoundsTo count (-x) (-r) := by
  rcases h with ⟨rfl, rfl⟩ | ⟨place, hlow, hhigh, hr⟩
  · exact .inl ⟨neg_zero, neg_zero⟩
  · exact .inr ⟨place, by rwa [abs_neg], by rwa [abs_neg], hr.neg⟩

/-- A number or its negative. -/
def withSign (negative : Bool) (x : ℚ) : ℚ := if negative then -x else x

@[simp] theorem withSign_withSign (negative : Bool) (x : ℚ) :
    withSign negative (withSign negative x) = x := by
  cases negative <;> simp [withSign]

theorem withSign_mul (a b : Bool) (x y : ℚ) :
    withSign a x * withSign b y = withSign (a != b) (x * y) := by
  cases a <;> cases b <;> simp [withSign]

theorem RoundsTo.withSign (h : RoundsTo count x r) (negative : Bool) :
    RoundsTo count (withSign negative x) (withSign negative r) := by
  cases negative with
  | false => exact h
  | true => exact h.neg

/-! ### Rounding a coefficient -/

theorem abs_sub_roundHalfEven_le (hd : 0 < den) (num : ℕ) :
    |(num : ℚ) - roundHalfEven num den * den| ≤ den / 2 := by
  obtain ⟨habove, hbelow⟩ := roundHalfEven_near num hd
  have habove : (2 : ℚ) * (roundHalfEven num den * den) ≤ 2 * num + den := by exact_mod_cast habove
  have hbelow : (2 : ℚ) * num ≤ 2 * (roundHalfEven num den * den) + den := by exact_mod_cast hbelow
  rw [abs_le]
  constructor <;> linarith

/-- At half the distance the quotient is even. -/
theorem even_roundHalfEven (hd : 0 < den)
    (h : |(num : ℚ) - roundHalfEven num den * den| = den / 2) : Even (roundHalfEven num den) := by
  have htie : 2 * num = 2 * (roundHalfEven num den * den) + den ∨
      2 * num + den = 2 * (roundHalfEven num den * den) := by
    rcases eq_or_eq_neg_of_abs_eq h with h | h
    · left
      have : (2 : ℚ) * num = 2 * (roundHalfEven num den * den) + den := by linarith
      exact_mod_cast this
    · right
      have : (2 : ℚ) * num + den = 2 * (roundHalfEven num den * den) := by linarith
      exact_mod_cast this
  have hparts : num / den * den + num % den = num := Nat.div_add_mod' num den
  have hless := Nat.mod_lt num hd
  have hnext : (num / den + 1) * den = num / den * den + den := Nat.succ_mul _ _
  have hhalf : 2 * (num % den) = den := by
    revert htie
    unfold roundHalfEven
    simp only
    split
    · omega
    · split
      · omega
      · omega
  exact Nat.even_iff.2 (roundHalfEven_tie hhalf)

/-- A number with no digits below a place is its own rounding there. -/
theorem nearestAt_self (h : place ≤ e) : NearestAt place (c * 10 ^ e) (c * 10 ^ e) := by
  have hp : (0 : ℚ) < 10 ^ place := ten_zpow_pos place
  refine ⟨(c * 10 ^ (e - place).toNat : ℕ), ?_, ?_, fun htie => ?_⟩
  · rw [ten_zpow_eq_mul h]
    push_cast
    ring
  · rw [sub_self, abs_zero]
    positivity
  · rw [sub_self, abs_zero] at htie
    linarith

/-- Other numbers have their coefficient rounded. -/
theorem nearestAt_roundHalfEven (h : e ≤ place) : NearestAt place (c * 10 ^ e)
    (roundHalfEven c (10 ^ (place - e).toNat) * 10 ^ place) := by
  have hp : (0 : ℚ) < 10 ^ e := ten_zpow_pos e
  have hd : 0 < 10 ^ (place - e).toNat := Nat.pow_pos (by decide)
  have hplace : (10 : ℚ) ^ place = ((10 ^ (place - e).toNat : ℕ) : ℚ) * 10 ^ e := ten_zpow_eq_mul h
  set d := 10 ^ (place - e).toNat
  set q := roundHalfEven c d
  have hdistance : |(c : ℚ) * 10 ^ e - q * 10 ^ place| = |(c : ℚ) - q * d| * 10 ^ e := by
    rw [hplace, ← mul_assoc, ← sub_mul, abs_mul, abs_of_pos hp]
  have hhalf : (10 : ℚ) ^ place / 2 = d / 2 * 10 ^ e := by rw [hplace]; ring
  refine ⟨(q : ℤ), by push_cast; rfl, ?_, fun htie => ?_⟩
  · rw [hdistance, hhalf]
    have := abs_sub_roundHalfEven_le hd c
    gcongr
  · rw [hdistance, hhalf] at htie
    have heven := even_roundHalfEven hd (mul_right_cancel₀ hp.ne' htie)
    exact_mod_cast heven

/-- The powers of ten around a decimal number. -/
theorem ten_zpow_le_decimal (hc : c ≠ 0) (e : ℤ) :
    (10 : ℚ) ^ (e + (decimal c).length - 1) ≤ c * 10 ^ e ∧
      (c : ℚ) * 10 ^ e < 10 ^ (e + (decimal c).length) := by
  obtain ⟨hlow, hhigh⟩ := ten_zpow_length_le hc
  have hp : (0 : ℚ) < 10 ^ e := ten_zpow_pos e
  constructor
  · calc (10 : ℚ) ^ (e + (decimal c).length - 1)
        = 10 ^ (((decimal c).length : ℤ) - 1) * 10 ^ e := by
          rw [← zpow_add₀ (by norm_num)]
          congr 1
          omega
      _ ≤ c * 10 ^ e := by
          unfold decimal
          gcongr
  · calc (c : ℚ) * 10 ^ e < 10 ^ ((decimal c).length : ℤ) * 10 ^ e := by
          unfold decimal
          gcongr
      _ = 10 ^ (e + (decimal c).length) := by
          rw [← zpow_add₀ (by norm_num)]
          congr 1
          omega

/-- What is nearest at the place of the last digit is the number with so many digits. -/
theorem roundsTo_of_nearestAt (hc : c ≠ 0)
    (h : NearestAt (e + (decimal c).length - count) (c * 10 ^ e) r) :
    RoundsTo count (c * 10 ^ e) r := by
  obtain ⟨hlow, hhigh⟩ := ten_zpow_le_decimal hc e
  have hx : |(c : ℚ) * 10 ^ e| = c * 10 ^ e := abs_of_nonneg (by positivity)
  refine .inr ⟨_, ?_, ?_, h⟩
  · rw [hx]
    convert hlow using 2
    omega
  · rw [hx]
    convert hhigh using 2
    omega

/-- **A decimal number can be rounded.** -/
theorem exists_roundsTo (count c : ℕ) (e : ℤ) : ∃ r, RoundsTo count (c * 10 ^ e) r := by
  by_cases hc : c = 0
  · exact ⟨0, .inl ⟨by simp [hc], rfl⟩⟩
  · rcases le_total (e + (decimal c).length - count) e with h | h
    · exact ⟨_, roundsTo_of_nearestAt hc (nearestAt_self h)⟩
    · exact ⟨_, roundsTo_of_nearestAt hc (nearestAt_roundHalfEven h)⟩

/-- A number of few enough digits is its own rounding. -/
theorem roundsTo_self (h : (decimal c).length ≤ count) :
    RoundsTo count (c * 10 ^ e) (c * 10 ^ e) := by
  by_cases hc : c = 0
  · exact .inl ⟨by simp [hc], by simp [hc]⟩
  · exact roundsTo_of_nearestAt hc (nearestAt_self (by omega))

namespace Scientific

/-! ### Products -/

/-- The rational number that a decimal number stands for, if it is finite. -/
def value? : Scientific → Option ℚ
  | .finite negative c e => some (withSign negative (c * 10 ^ e))
  | _ => none

/-- A text is read as a decimal number, which stands for a rational number. -/
def StandsFor (text : String) (x : ℚ) : Prop := ∃ d, read? text = some d ∧ d.value? = some x

/-- A decimal number has this value: it is not too large, and all its digits are at places that
there are. -/
structure InRange (r : ℚ) : Prop where
  small : |r| < 10 ^ (greatest + 1)
  multiple : ∃ n : ℤ, r = n * 10 ^ least

theorem InRange.withSign (h : InRange r) (negative : Bool) : InRange (withSign negative r) := by
  cases negative with
  | false => exact h
  | true =>
    obtain ⟨hsmall, n, rfl⟩ := h
    exact ⟨by rwa [Number.withSign, if_pos rfl, abs_neg], -n, by simp [Number.withSign]⟩

/-- A number of a few digits at places that there are is in range. -/
theorem inRange_of_digits {k : ℕ} (hc : c < 10 ^ k) (hlow : least ≤ e)
    (hhigh : k + e ≤ greatest + 1) : InRange (c * 10 ^ e) where
  small := by
    have hp : (0 : ℚ) < 10 ^ e := ten_zpow_pos e
    have hc : (c : ℚ) < 10 ^ (k : ℤ) := by exact_mod_cast hc
    rw [abs_of_nonneg (by positivity)]
    calc (c : ℚ) * 10 ^ e < 10 ^ (k : ℤ) * 10 ^ e := by gcongr
      _ = 10 ^ (k + e) := (zpow_add₀ (by norm_num) _ _).symm
      _ ≤ 10 ^ (greatest + 1) := ten_zpow_le_iff.2 hhigh
  multiple := by
    refine ⟨(c * 10 ^ (e - least).toNat : ℕ), ?_⟩
    rw [ten_zpow_eq_mul hlow]
    push_cast
    ring

/-- A number in range is also rounded where the last of its digits can be. -/
theorem InRange.nearestAt (hr : InRange r) (h : NearestAt place x r) :
    NearestAt (max place least) x r := by
  rcases le_or_gt least place with hle | hlt
  · rwa [max_eq_left hle]
  · rw [max_eq_right hlt.le]
    obtain ⟨n, hn⟩ := hr.multiple
    obtain ⟨-, -, hnear, -⟩ := h
    have hp : (10 : ℚ) ^ place < 10 ^ least := ten_zpow_lt_iff.2 hlt
    exact ⟨n, hn, by linarith, fun htie => absurd htie (by linarith)⟩

/-- Far enough below the place of the last digit there is nothing to round up. -/
theorem rounded_eq (c k : ℕ) : (if ((decimal c).length : ℤ) < k then 0 else
    roundHalfEven c (10 ^ k)) = roundHalfEven c (10 ^ k) := by
  split
  · rename_i h
    have h : (decimal c).length < k := by exact_mod_cast h
    have hc : c < 10 ^ (decimal c).length :=
      (Nat.length_toDigits_le_iff (by decide) Nat.length_toDigits_pos).1 le_rfl
    have hpow : 10 ^ (decimal c).length * 10 ≤ 10 ^ k := by
      rw [← pow_succ]
      exact Nat.pow_le_pow_right (by decide) h
    exact (roundHalfEven_of_lt (by omega)).symm
  · rfl

/-- The place of the last of the digits is determined by the number. -/
theorem place_eq (hc : c ≠ 0) (hlow : (10 : ℚ) ^ (place + count - 1) ≤ c * 10 ^ e)
    (hhigh : (c : ℚ) * 10 ^ e < 10 ^ (place + count)) :
    place + count = e + (decimal c).length := by
  obtain ⟨hlow', hhigh'⟩ := ten_zpow_le_decimal hc e
  have h := ten_zpow_lt_iff.1 (hlow.trans_lt hhigh')
  have h' := ten_zpow_lt_iff.1 (hlow'.trans_lt hhigh)
  omega

/-- What is not below the powers of ten that are too large is rounded to something too large. -/
theorem InRange.not_le {k : ℤ} (hr : InRange r) (h : NearestAt place x r) (hplace : place ≤ k)
    (hk : greatest < k) : ¬ (10 : ℚ) ^ k ≤ x := by
  intro hx
  rw [ten_zpow_eq_mul hplace] at hx
  have hle := h.le_of_le (n := (10 ^ (k - place).toNat : ℕ)) (by exact_mod_cast hx)
  have hlarge : (10 : ℚ) ^ (greatest + 1) ≤ 10 ^ k := ten_zpow_le_iff.2 (by omega)
  rw [ten_zpow_eq_mul hplace] at hlarge
  push_cast at hlarge hle
  have := (le_abs_self r).trans_lt hr.small
  linarith

/-- A coefficient that was rounded up to one digit more has zeros only: it is written with one
exponent more. -/
theorem carried_eq (last : ℤ) :
    ((10 ^ (precision - 1) : ℕ) : ℚ) * 10 ^ (last + 1) = (10 ^ precision : ℕ) * 10 ^ last := by
  obtain ⟨k, hk⟩ : ∃ k, precision = k + 1 := ⟨27, rfl⟩
  rw [hk, Nat.add_sub_cancel, zpow_add_one₀ (by norm_num), pow_succ]
  push_cast
  ring

theorem InRange.carried {last : ℤ} (hr : InRange r) (h : (10 ^ precision : ℕ) * 10 ^ last = r) :
    ¬ greatest < last + precision := by
  intro hlarge
  have hpower : ((10 ^ precision : ℕ) : ℚ) * 10 ^ last = 10 ^ (last + precision) := by
    push_cast
    rw [zpow_add₀ (by norm_num), zpow_natCast, mul_comm]
  have hless := (le_abs_self r).trans_lt hr.small
  rw [← h, hpower, ten_zpow_lt_iff] at hless
  omega

/-- A coefficient is rounded where the last of its digits can be. -/
theorem fix_of_nearestAt (hc : c ≠ 0)
    (h : NearestAt (max (e + (decimal c).length - precision) least) (c * 10 ^ e) r)
    (hr : InRange r) : ∃ c' e', fix c e = .ok (c', e') ∧ (c' : ℚ) * 10 ^ e' = r := by
  have hleast : least ≤ greatest := by decide
  have hdigits : (1 : ℤ) ≤ precision := by decide
  obtain ⟨last, hlast⟩ : ∃ last, max (e + (decimal c).length - precision) least = last := ⟨_, rfl⟩
  rw [hlast] at h
  have hfits : ¬ greatest < e + (decimal c).length - 1 := fun hlarge =>
    hr.not_le h (by omega) hlarge (ten_zpow_le_decimal hc e).1
  unfold fix
  simp only [hc, if_false, hlast, hfits]
  by_cases hle : last ≤ e
  · simp only [hle, if_true]
    exact ⟨c, e, rfl, (nearestAt_self hle).unique h⟩
  · have hrounded := (nearestAt_roundHalfEven (le_of_not_ge hle)).unique h
    simp only [hle, if_false, Nat.pow_eq, rounded_eq]
    split
    · rename_i htop
      rw [htop] at hrounded
      rw [if_neg (hr.carried hrounded)]
      exact ⟨_, _, rfl, (carried_eq last).trans hrounded⟩
    · exact ⟨_, _, rfl, hrounded⟩

/-- **A coefficient is rounded to 28 digits,** if the result is in range. -/
theorem fix_of_roundsTo (h : RoundsTo precision (c * 10 ^ e) r) (hr : InRange r) :
    ∃ c' e', fix c e = .ok (c', e') ∧ (c' : ℚ) * 10 ^ e' = r := by
  rcases h with ⟨hzero, rfl⟩ | ⟨place, hlow, hhigh, hnear⟩
  · have hc : c = 0 := by simpa [(ten_zpow_pos e).ne'] using hzero
    exact ⟨0, _, by simp [fix, hc]; rfl, by simp⟩
  · have hx : |(c : ℚ) * 10 ^ e| = c * 10 ^ e := abs_of_nonneg (by positivity)
    rw [hx] at hlow hhigh
    have hc : c ≠ 0 := by
      rintro rfl
      have := ten_zpow_pos (place + precision - 1)
      simp only [Nat.cast_zero, zero_mul] at hlow
      linarith
    have hplace := place_eq hc hlow hhigh
    have hlast : place = e + (decimal c).length - precision := by omega
    exact fix_of_nearestAt hc (hlast ▸ hr.nearestAt hnear) hr

theorem mul_ten_zpow (c d : ℕ) (e f : ℤ) :
    (c : ℚ) * 10 ^ e * (d * 10 ^ f) = ((c * d : ℕ) : ℚ) * 10 ^ (e + f) := by
  rw [zpow_add₀ (by norm_num)]
  push_cast
  ring

theorem exists_finite {a : Scientific} (h : a.value? = some x) :
    ∃ s c e, a = .finite s c e ∧ withSign s (c * 10 ^ e) = x := by
  cases a with
  | finite s c e => exact ⟨s, c, e, rfl, Option.some.inj h⟩
  | _ => cases h

/-- **A product is rounded to 28 digits,** if the result is in range. -/
theorem mul_of_roundsTo {a b : Scientific} (ha : a.value? = some x) (hb : b.value? = some y)
    (h : RoundsTo precision (x * y) r) (hr : InRange r) :
    ∃ negative c e, a.mul b = .ok (.finite negative c e) ∧
      (finite negative c e).value? = some r := by
  obtain ⟨s, c, e, rfl, rfl⟩ := exists_finite ha
  obtain ⟨t, d, f, rfl, rfl⟩ := exists_finite hb
  have hround := h.withSign (s != t)
  rw [withSign_mul, withSign_withSign, mul_ten_zpow] at hround
  obtain ⟨c', e', hfix, hvalue⟩ := fix_of_roundsTo hround (hr.withSign _)
  refine ⟨s != t, c', e', ?_, ?_⟩
  · simp only [mul, hfix]
    rfl
  · rw [value?, hvalue, withSign_withSign]

/-- Every product can be rounded. -/
theorem exists_roundsTo_mul {a b : Scientific} (ha : a.value? = some x) (hb : b.value? = some y)
    (count : ℕ) : ∃ r, RoundsTo count (x * y) r := by
  obtain ⟨s, c, e, rfl, rfl⟩ := exists_finite ha
  obtain ⟨t, d, f, rfl, rfl⟩ := exists_finite hb
  obtain ⟨r, hr⟩ := exists_roundsTo count (c * d) (e + f)
  rw [withSign_mul, mul_ten_zpow]
  exact ⟨_, hr.withSign _⟩

/-- A product of few enough digits is its own rounding, and is in range if its exponent is. -/
theorem roundsTo_mul_of_short {d : ℕ} {f : ℤ} (hshort : (decimal (c * d)).length ≤ precision)
    (hlow : least ≤ e + f) (hhigh : precision + (e + f) ≤ greatest + 1) :
    RoundsTo precision (c * 10 ^ e * (d * 10 ^ f)) (c * 10 ^ e * (d * 10 ^ f)) ∧
      InRange (c * 10 ^ e * (d * 10 ^ f)) := by
  have hdigits : c * d < 10 ^ precision :=
    (Nat.length_toDigits_le_iff (by decide) (by decide)).1 hshort
  rw [mul_ten_zpow]
  exact ⟨roundsTo_self hshort, inRange_of_digits hdigits hlow hhigh⟩

end Scientific
end Number
end QuantityCalculus
