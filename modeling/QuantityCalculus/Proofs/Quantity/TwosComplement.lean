/-
# Bitwise operators in two's complement

Bitwise operators and shifts on integers of any size give what arithmetic on words of 64 bits in
two's complement gives: every integer has infinitely many bits, cutting it to 64 bits keeps the
lowest ones, and disjunction and conjunction act on each bit alone. So it makes no difference
whether operands are cut beforehand.

**Main statement.** `computes_twosComplement`. It rests on `testBit_disjunction` and
`testBit_conjunction` for the bits, on `conjunction_mask` for masks, and on `wrap_eq_toInt`.
-/

import Mathlib.Data.Int.Bitwise
import Mathlib.Data.Int.ModEq
import Mathlib.Data.Rat.Floor
import QuantityCalculus.Quantity.Arithmetic

namespace QuantityCalculus
namespace Bitwise

/-! ### Bits -/

theorem testBit_without (m n i : ℕ) :
    (without m n).testBit i = (m.testBit i && !n.testBit i) := by
  rw [without, Nat.testBit_xor, Nat.testBit_and]
  cases m.testBit i <;> cases n.testBit i <;> rfl

theorem without_eq_ldiff (m n : ℕ) : without m n = m.ldiff n := by
  refine Nat.eq_of_testBit_eq fun i => ?_
  rw [testBit_without, Nat.testBit_ldiff]

/-- **A disjunction has a bit** if one of the two integers has it. -/
theorem testBit_disjunction (l r : ℤ) (i : ℕ) :
    (disjunction l r).testBit i = (l.testBit i || r.testBit i) := by
  have h : disjunction l r = l.lor r := by
    cases l with
    | ofNat m =>
      cases r with
      | ofNat n => rfl
      | negSucc n => exact congrArg Int.negSucc (without_eq_ldiff n m)
    | negSucc m =>
      cases r with
      | ofNat n => exact congrArg Int.negSucc (without_eq_ldiff m n)
      | negSucc n => rfl
  rw [h, Int.testBit_lor]

/-- **A conjunction has a bit** if both integers have it. -/
theorem testBit_conjunction (l r : ℤ) (i : ℕ) :
    (conjunction l r).testBit i = (l.testBit i && r.testBit i) := by
  have h : conjunction l r = l.land r := by
    cases l with
    | ofNat m =>
      cases r with
      | ofNat n => rfl
      | negSucc n => exact congrArg Int.ofNat (without_eq_ldiff m n)
    | negSucc m =>
      cases r with
      | ofNat n => exact congrArg Int.ofNat (without_eq_ldiff n m)
      | negSucc n => rfl
  rw [h, Int.testBit_land]

/-- The lowest bits of an integer as a word. -/
theorem getLsbD_ofInt (w : ℕ) (n : ℤ) (i : ℕ) :
    (BitVec.ofInt w n).getLsbD i = (decide (i < w) && n.testBit i) := by
  cases n with
  | ofNat n => exact (BitVec.ofInt_natCast w n) ▸ BitVec.getLsbD_ofNat w n i
  | negSucc n =>
    rw [BitVec.ofInt_negSucc_eq_not_ofNat, BitVec.getLsbD_not, BitVec.getLsbD_ofNat]
    cases decide (i < w) <;> rfl

/-- **Masking the lowest bits** takes the remainder by a power of two. -/
theorem conjunction_mask (n : ℤ) (k : ℕ) : conjunction n ((2 ^ k - 1 : ℕ) : ℤ) = n % 2 ^ k := by
  cases n with
  | ofNat n =>
    exact congrArg Int.ofNat (Nat.and_two_pow_sub_one_eq_mod n k)
  | negSucc n =>
    have hbits : without (2 ^ k - 1) n = 2 ^ k - (n % 2 ^ k + 1) := by
      refine Nat.eq_of_testBit_eq fun i => ?_
      rw [testBit_without, Nat.testBit_two_pow_sub_one,
        Nat.testBit_two_pow_sub_succ (Nat.mod_lt n (Nat.two_pow_pos k)), Nat.testBit_mod_two_pow]
      cases decide (i < k) <;> simp
    have hlt : n % 2 ^ k < 2 ^ k := Nat.mod_lt n (Nat.two_pow_pos k)
    refine (congrArg Int.ofNat hbits).trans ?_
    rw [Int.negSucc_emod n (by positivity), Int.ofNat_eq_natCast, Nat.cast_sub hlt]
    push_cast
    ring

/-! ### Words of 64 bits -/

/-- An integer as a word of 64 bits. -/
def word (n : ℤ) : BitVec 64 := BitVec.ofInt 64 n

theorem word_disjunction (l r : ℤ) : word (disjunction l r) = word l ||| word r := by
  refine BitVec.eq_of_getLsbD_eq fun i hi => ?_
  simp only [word, BitVec.getLsbD_or, getLsbD_ofInt, testBit_disjunction, hi, decide_true,
    Bool.true_and]

theorem word_conjunction (l r : ℤ) : word (conjunction l r) = word l &&& word r := by
  refine BitVec.eq_of_getLsbD_eq fun i hi => ?_
  simp only [word, BitVec.getLsbD_and, getLsbD_ofInt, testBit_conjunction, hi, decide_true,
    Bool.true_and]

/-- **A wrapped integer** is the signed value of its word. -/
theorem wrap_eq_toInt (n : ℤ) : wrap n = (word n).toInt := by
  have hmask : conjunction n mask = n % 2 ^ 64 := conjunction_mask n 64
  rw [word, BitVec.toInt_ofInt, Int.bmod_def, wrap, hmask]
  norm_num
  split <;> split <;> omega

theorem amount_eq (r : ℤ) : amount r = (r % 64).toNat := by
  have hmask : conjunction r 63 = r % 2 ^ 6 := conjunction_mask r 6
  rw [amount, hmask]
  rfl

/-- Two integers have the same word if they are congruent. -/
theorem word_congr {m n : ℤ} (h : m ≡ n [ZMOD 2 ^ 64]) : word m = word n := by
  refine BitVec.eq_of_toNat_eq ?_
  rw [word, word, BitVec.toNat_ofInt, BitVec.toNat_ofInt]
  exact congrArg Int.toNat h

/-- The signed value of a word has the residue of the integer. -/
theorem toInt_word_modEq (n : ℤ) : (word n).toInt ≡ n [ZMOD 2 ^ 64] := by
  rw [word, BitVec.toInt_ofInt]
  exact Int.bmod_emod (x := n) (m := 2 ^ 64)

theorem or_eq_toInt (l r : ℤ) : or l r = (word l ||| word r).toInt := by
  rw [or, wrap_eq_toInt, word_disjunction]

theorem and_eq_toInt (l r : ℤ) : and l r = (word l &&& word r).toInt := by
  rw [and, wrap_eq_toInt, word_conjunction]

theorem shiftLeft_eq_toInt (l r : ℤ) :
    shiftLeft l r = (word ((word l).toInt * 2 ^ (r % 64).toNat)).toInt := by
  rw [shiftLeft, wrap_eq_toInt, wrap_eq_toInt, amount_eq, Int.shiftLeft_eq]

theorem shiftRight_eq_toInt (l r : ℤ) :
    shiftRight l r = ((word l).sshiftRight (r % 64).toNat).toInt := by
  rw [shiftRight, wrap_eq_toInt, amount_eq, BitVec.toInt_sshiftRight]

/-! ### The operators -/

/-- An operator on quantities without units computes with their integer parts. -/
theorem onIntegers_eq {α : Type} [Scalar α] {a b : Quantity α} {l r : ℤ} (ha : a.isPure = true)
    (hb : b.isPure = true) (hl : Scalar.toInt a.scalar = .ok l) (hr : Scalar.toInt b.scalar = .ok r)
    (mismatch : Mismatch) (f : ℤ → ℤ → ℤ) :
    Quantity.onIntegers mismatch f a b =
      .ok (.pure (Scalar.ofReal (Number.ofInt (f l r)))) := by
  unfold Quantity.onIntegers
  rw [ha, hb, hl, hr]
  rfl

/-- **What bitwise operators and shifts compute** of two integers of any size. -/
structure ComputesTwosComplement (l r : ℤ) : Prop where
  /-- The disjunction of the words of 64 bits, with a sign. -/
  or : Bitwise.or l r = (word l ||| word r).toInt
  /-- The conjunction of the words of 64 bits, with a sign. -/
  and : Bitwise.and l r = (word l &&& word r).toInt
  /-- A shift to the left multiplies by a power of two, up to multiples of `2^64`. -/
  shiftLeft : Bitwise.shiftLeft l r ≡ l * 2 ^ (r % 64).toNat [ZMOD 2 ^ 64]
  /-- A shift to the right divides the signed value by a power of two and rounds down. -/
  shiftRight : Bitwise.shiftRight l r = ⌊((word l).toInt : ℚ) / 2 ^ (r % 64).toNat⌋
  /-- Every result has 64 bits with a sign. -/
  bounds : ∀ v ∈ [Bitwise.or l r, Bitwise.and l r, Bitwise.shiftLeft l r, Bitwise.shiftRight l r],
    -2 ^ 63 ≤ v ∧ v < 2 ^ 63
  /-- Operands with the same lowest 64 bits, with or without a sign, give the same results. -/
  reduced : ∀ l' r', l' ≡ l [ZMOD 2 ^ 64] → r' ≡ r [ZMOD 2 ^ 64] →
    Bitwise.or l' r' = Bitwise.or l r ∧ Bitwise.and l' r' = Bitwise.and l r ∧
      Bitwise.shiftLeft l' r' = Bitwise.shiftLeft l r ∧
      Bitwise.shiftRight l' r' = Bitwise.shiftRight l r
  /-- The operators on quantities without units whose integer parts these are convert just these
  results, over every kind of scalar. -/
  operators : ∀ {α : Type} [Scalar α] (a b : Quantity α), a.isPure = true → b.isPure = true →
    Scalar.toInt a.scalar = .ok l → Scalar.toInt b.scalar = .ok r →
      a.bitwiseOr b = .ok (.pure (Scalar.ofReal (Number.ofInt (Bitwise.or l r)))) ∧
      a.bitwiseAnd b = .ok (.pure (Scalar.ofReal (Number.ofInt (Bitwise.and l r)))) ∧
      a.shiftLeft b = .ok (.pure (Scalar.ofReal (Number.ofInt (Bitwise.shiftLeft l r)))) ∧
      a.shiftRight b = .ok (.pure (Scalar.ofReal (Number.ofInt (Bitwise.shiftRight l r))))

/-- **Bitwise operators and shifts are those of two's complement** with 64 bits, for all integers
and all amounts of a shift. -/
theorem computes_twosComplement (l r : ℤ) : ComputesTwosComplement l r := by
  refine ⟨or_eq_toInt l r, and_eq_toInt l r, ?_, ?_, fun v hv => ?_, fun l' r' hl hr => ?_,
    fun a b ha hb hl hr => ?_⟩
  · rw [shiftLeft_eq_toInt]
    exact (toInt_word_modEq _).trans ((toInt_word_modEq l).mul_right _)
  · rw [shiftRight_eq_toInt, BitVec.toInt_sshiftRight, Int.shiftRight_eq_div_pow,
      ← Rat.floor_intCast_div_natCast]
    push_cast
    rfl
  · have hword : ∃ x : BitVec 64, v = x.toInt := by
      simp only [List.mem_cons, List.not_mem_nil, or_false] at hv
      rcases hv with rfl | rfl | rfl | rfl
      · exact ⟨_, or_eq_toInt l r⟩
      · exact ⟨_, and_eq_toInt l r⟩
      · exact ⟨_, shiftLeft_eq_toInt l r⟩
      · exact ⟨_, shiftRight_eq_toInt l r⟩
    obtain ⟨x, rfl⟩ := hword
    exact ⟨x.le_toInt, x.toInt_lt⟩
  · have hamount : r' % 64 = r % 64 := hr.of_dvd (by norm_num)
    simp only [or_eq_toInt, and_eq_toInt, shiftLeft_eq_toInt, shiftRight_eq_toInt,
      word_congr hl, word_congr hr, hamount, and_self]
  · exact ⟨onIntegers_eq ha hb hl hr .bitwiseOr _, onIntegers_eq ha hb hl hr .bitwiseAnd _,
      onIntegers_eq ha hb hl hr .shift _, onIntegers_eq ha hb hl hr .shift _⟩

/-- A shift to the left by one less than a word reaches the sign, and one by `-1` is the same. -/
example : shiftLeft 1 63 = -0x8000000000000000 ∧ shiftLeft 1 (-1) = shiftLeft 1 63 := by decide

end Bitwise
end QuantityCalculus
