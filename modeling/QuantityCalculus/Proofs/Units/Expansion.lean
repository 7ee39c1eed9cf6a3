/-
# The search for an exact exponent

The exponent of a unit is searched among the convergents of a continued fraction. In the exact
arithmetic of rational numbers the search comes to an end: from the third term on the denominators
grow with each term, so one of them is too large if no convergent is close enough before. What is
found is a fraction within the bounds and within the tolerance. And every fraction of a small
denominator is found itself: its own denominator bounds those of its convergents, and two different
fractions of such denominators lie further apart than the tolerance allows.

**Main statement.** `searches_of_pos`. It rests on `Expands.expand_eq` and `exists_expands` for the
end of the search, on `Expands.of_mem` for the convergents, and on `Combines.next` and `eq_of_close`
for the fraction that is found.
-/

import Mathlib.Algebra.Order.Floor.Semifield
import Mathlib.Data.Rat.Floor
import Mathlib.Data.Sign.Basic
import Mathlib.RingTheory.Coprime.Lemmas
import Mathlib.Tactic.FieldSimp
import Mathlib.Tactic.GCongr
import Mathlib.Tactic.Linarith
import QuantityCalculus.Units.Exponent

namespace QuantityCalculus
namespace Exponent

open Expandable

variable {max n : ℕ} {m rest x : ℚ} {c d e : Convergents} {ds : List Convergents}

/-! ### Exact arithmetic -/

/-- The later fraction of a pair. -/
def Convergents.value (c : Convergents) : ℚ := c.p₁ / c.q₁

/-- A fraction differs from a magnitude by at most one part in `10^12`. -/
def Close (y m : ℚ) : Prop := |y - m| ≤ 1 / 10 ^ 12 * m

instance (y m : ℚ) : Decidable (Close y m) := inferInstanceAs (Decidable (_ ≤ _))

theorem close_iff (y m : ℚ) : close y m = true ↔ Close y m := by
  have habs : (if y < m then m - y else y - m) = |y - m| := by
    split
    · rename_i h
      rw [abs_of_neg (sub_neg.2 h), neg_sub]
    · rename_i h
      rw [abs_of_nonneg (sub_nonneg.2 (not_lt.1 h))]
  simp only [close, habs, decide_eq_true_eq, Close]
  norm_num

theorem ratio_eq (n k : ℕ) : (ratio n k : ℚ) = n / k := Rat.mkRat_eq_div n k

theorem floor_eq (y : ℚ) : floor y = ⌊y⌋₊ := Int.floor_toNat y

/-- The pair after the next term. -/
def Convergents.after (c : Convergents) (rest : ℚ) : Convergents := c.next ⌊rest⌋₊

/-- What the next term leaves. -/
def fraction (rest : ℚ) : ℚ := rest - ⌊rest⌋₊

theorem fraction_nonneg (hrest : 0 ≤ rest) : 0 ≤ fraction rest := sub_nonneg.2 (Nat.floor_le hrest)

theorem fraction_lt_one (rest : ℚ) : fraction rest < 1 :=
  sub_lt_iff_lt_add'.2 (Nat.lt_floor_add_one rest)

/-- The search stops at the next pair: nothing is left, or the fraction is close enough. -/
def Stops (m rest : ℚ) (c : Convergents) : Prop :=
  fraction rest = 0 ∨ Close (c.after rest).value m

instance : Decidable (Stops m rest c) := inferInstanceAs (Decidable (_ ∨ _))

/-- One round of the search. -/
theorem expand_succ (max fuel : ℕ) (m rest : ℚ) (c : Convergents) :
    expand max m (fuel + 1) rest c =
      if max < (c.after rest).q₁ then c
      else if Stops m rest c then c.after rest
      else expand max m fuel (1 / fraction rest) (c.after rest) := by
  have hfraction : sub rest (ratio (floor rest) 1) = fraction rest := by
    rw [ratio_eq, floor_eq, Nat.cast_one, div_one]
    rfl
  have hstops : (isZero (fraction rest) ||
      close (ratio (c.after rest).p₁ (c.after rest).q₁) m) = true ↔ Stops m rest c := by
    rw [Bool.or_eq_true, close_iff, ratio_eq]
    exact or_congr_left beq_iff_eq
  have hafter : c.next (floor rest) = c.after rest := congrArg c.next (floor_eq rest)
  rw [expand]
  simp only [hfraction, hafter, hstops]
  rfl

/-! ### The search without a bound of its rounds -/

/-- The search from a remainder on, with the pairs that it passes through and the one that it ends
with. -/
inductive Expands (max : ℕ) (m : ℚ) : ℚ → Convergents → List Convergents → Convergents → Prop
  | beyond {rest : ℚ} {c : Convergents} (h : max < (c.after rest).q₁) : Expands max m rest c [] c
  | found {rest : ℚ} {c : Convergents} (h : (c.after rest).q₁ ≤ max) (hstops : Stops m rest c) :
      Expands max m rest c [c.after rest] (c.after rest)
  | further {rest : ℚ} {c d : Convergents} {ds : List Convergents} (h : (c.after rest).q₁ ≤ max)
      (hstops : ¬ Stops m rest c) (run : Expands max m (1 / fraction rest) (c.after rest) ds d) :
      Expands max m rest c (c.after rest :: ds) d

/-- **The rounds that are counted are enough** if they are as many as the search takes. -/
theorem Expands.expand_eq (run : Expands max m rest c ds d) {fuel : ℕ} (hfuel : ds.length ≤ fuel) :
    expand max m fuel rest c = d := by
  induction run generalizing fuel with
  | beyond h =>
    cases fuel with
    | zero => rfl
    | succ fuel => rw [expand_succ, if_pos h]
  | found h hstops =>
    obtain ⟨fuel, rfl⟩ := Nat.exists_eq_add_of_le' hfuel
    rw [List.length_singleton, expand_succ, if_neg (not_lt.2 h), if_pos hstops]
  | further h hstops _ ih =>
    obtain ⟨fuel, rfl⟩ := Nat.exists_eq_add_of_le' hfuel
    rw [List.length_cons, ← Nat.add_assoc, expand_succ, if_neg (not_lt.2 h), if_neg hstops]
    exact ih (Nat.le_add_left _ _)

/-- One round, and what the search does from the next pair on. -/
theorem Expands.exists_of_next
    (h : (c.after rest).q₁ ≤ max → fraction rest ≠ 0 →
      ∃ ds d, Expands max m (1 / fraction rest) (c.after rest) ds d ∧ ds.length ≤ n) :
    ∃ ds d, Expands max m rest c ds d ∧ ds.length ≤ n + 1 := by
  rcases lt_or_ge max (c.after rest).q₁ with hq | hq
  · exact ⟨[], c, .beyond hq, Nat.zero_le _⟩
  · by_cases hstops : Stops m rest c
    · exact ⟨_, _, .found hq hstops, Nat.le_add_left _ _⟩
    · obtain ⟨ds, d, run, hlen⟩ := h hq fun h => hstops (.inl h)
      exact ⟨_, d, .further hq hstops run, Nat.succ_le_succ hlen⟩

/-! ### The end of the search -/

/-- What comes behind a term is at least one. -/
theorem one_le_inverse (hrest : 0 ≤ rest) (h : fraction rest ≠ 0) : 1 ≤ 1 / fraction rest :=
  one_le_one_div (lt_of_le_of_ne (fraction_nonneg hrest) h.symm) (fraction_lt_one rest).le

/-- **Denominators grow** with every term from the third one on. -/
theorem lt_after (hq : 1 ≤ c.q₀) (hrest : 1 ≤ rest) : c.q₁ < (c.after rest).q₁ := by
  have hterm : 1 ≤ ⌊rest⌋₊ := Nat.one_le_floor_iff rest |>.2 hrest
  have hmul : c.q₁ ≤ ⌊rest⌋₊ * c.q₁ := Nat.le_mul_of_pos_left c.q₁ hterm
  change c.q₁ < c.q₀ + ⌊rest⌋₊ * c.q₁
  omega

/-- Where denominators grow the search ends. -/
theorem exists_expands_of_growing (m : ℚ) (hq₀ : 1 ≤ c.q₀) (hq₁ : 1 ≤ c.q₁) (hrest : 1 ≤ rest)
    (hn : max < c.q₁ + n) : ∃ ds d, Expands max m rest c ds d ∧ ds.length ≤ n := by
  have hlt := lt_after hq₀ hrest
  induction n generalizing rest c with
  | zero => exact ⟨[], c, .beyond (Nat.lt_trans hn hlt), Nat.le_refl _⟩
  | succ n ih =>
    refine Expands.exists_of_next fun hmax hfraction => ?_
    have hnext := one_le_inverse (zero_le_one.trans hrest) hfraction
    exact ih hq₁ (hq₁.trans hlt.le) hnext (by omega) (lt_after hq₁ hnext)

/-- **The search ends** for every number and every bound, after two terms more than the bound at
the latest. -/
theorem exists_expands (max : ℕ) (hx : 0 ≤ x) :
    ∃ ds d, Expands max m x .start ds d ∧ ds.length ≤ max + 2 := by
  refine Expands.exists_of_next fun _ hx' => Expands.exists_of_next fun _ hy' => ?_
  have hy := one_le_inverse hx hx'
  -- behind the first term the denominators are `0` and `1`, behind the second `1` and the term
  have hq : 1 ≤ ((Convergents.start.after x).after (1 / fraction x)).q₁ := by
    have hterm := (Nat.one_le_floor_iff (1 / fraction x)).2 hy
    simpa [Convergents.after, Convergents.next, Convergents.start] using hterm
  exact exists_expands_of_growing m (Nat.le_refl 1) hq
    (one_le_inverse (zero_le_one.trans hy) hy') (by omega)

/-! ### Convergents -/

theorem Convergents.coprime (h : |d.det| = 1) : d.p₁.Coprime d.q₁ := by
  rw [← Nat.isCoprime_iff_coprime]
  rcases (abs_eq zero_le_one).1 h with h | h
  · exact ⟨d.q₀, -d.p₀, by rw [← h, det]; ring⟩
  · exact ⟨-d.q₀, d.p₀, by rw [← neg_neg (1 : ℤ), ← h, det]; ring⟩

theorem det_after (c : Convergents) (rest : ℚ) : (c.after rest).det = -c.det := c.next_det _

/-- **Every pair that the search passes through** has determinant one up to sign and a denominator
within the bound. -/
theorem Expands.of_mem (run : Expands max m rest c ds d) (hdet : |c.det| = 1) (hrest : 0 ≤ rest)
    (hq : 1 ≤ (c.after rest).q₁) : ∀ e ∈ ds, |e.det| = 1 ∧ 1 ≤ e.q₁ ∧ e.q₁ ≤ max := by
  induction run with
  | beyond => exact nofun
  | @found rest c h _ =>
    intro e he
    rw [List.mem_singleton.1 he, det_after, abs_neg]
    exact ⟨hdet, hq, h⟩
  | @further rest c d ds h hstops run ih =>
    have hdet' : |(c.after rest).det| = 1 := by rwa [det_after, abs_neg]
    have hnext := one_le_inverse hrest fun h => hstops (.inl h)
    have hterm : 1 ≤ ⌊1 / fraction rest⌋₊ := (Nat.one_le_floor_iff _).2 hnext
    have hq' : 1 ≤ ((c.after rest).after (1 / fraction rest)).q₁ :=
      (Nat.mul_le_mul hterm hq).trans (Nat.le_add_left _ _)
    exact List.forall_mem_cons.2
      ⟨⟨hdet', hq, h⟩, ih hdet' (zero_le_one.trans hnext) hq'⟩

/-- The search ends with the pair that it starts with, or with one that it passes through. -/
theorem Expands.end_mem (run : Expands max m rest c ds d) : d = c ∧ ds = [] ∨ d ∈ ds := by
  induction run with
  | beyond => exact .inl ⟨rfl, rfl⟩
  | found => exact .inr (List.mem_singleton.2 rfl)
  | further _ _ _ ih =>
    rcases ih with ⟨rfl, -⟩ | hmem
    · exact .inr (List.mem_cons_self ..)
    · exact .inr (List.mem_cons_of_mem _ hmem)

/-! ### Fractions of small denominators -/

/-- What a remainder is to a fraction `p / q` that is expanded: it is `a / b`, and the pair of
convergents combines these terms to those of the fraction. -/
def Combines (p q : ℕ) (rest : ℚ) (c : Convergents) : Prop :=
  ∃ a b : ℕ, 0 < b ∧ rest = a / b ∧ p = c.p₀ * b + c.p₁ * a ∧ q = c.q₀ * b + c.q₁ * a

theorem combines_start {p q : ℕ} (hq : 0 < q) : Combines p q (p / q) .start :=
  ⟨p, q, hq, rfl, by simp [Convergents.start], by simp [Convergents.start]⟩

/-- **The terms of a fraction bound those of its convergents,** and a convergent that leaves nothing
is the fraction. -/
theorem Combines.next {p q : ℕ} (h : Combines p q rest c) :
    (c.after rest).q₁ ≤ q ∧
      (fraction rest = 0 → (c.after rest).p₁ * q = p * (c.after rest).q₁) ∧
      (fraction rest ≠ 0 → Combines p q (1 / fraction rest) (c.after rest)) := by
  obtain ⟨a, b, hb, rfl, hp, hq⟩ := h
  have hb' : (b : ℚ) ≠ 0 := by positivity
  have hfloor : ⌊(a : ℚ) / b⌋₊ = a / b := Nat.floor_div_eq_div a b
  have hdivision : b * (a / b) + a % b = a := Nat.div_add_mod a b
  have hfraction : fraction ((a : ℚ) / b) = ((a % b : ℕ) : ℚ) / b := by
    rw [fraction, hfloor, sub_eq_iff_eq_add, div_add' _ _ _ hb', div_left_inj' hb']
    exact_mod_cast hdivision.symm.trans (by ring)
  have hp' : p = (c.after (a / b)).p₁ * b + c.p₁ * (a % b) := by
    rw [hp, Convergents.after, hfloor]
    nth_rewrite 1 [← hdivision]
    simp only [Convergents.next]
    ring
  have hq' : q = (c.after (a / b)).q₁ * b + c.q₁ * (a % b) := by
    rw [hq, Convergents.after, hfloor]
    nth_rewrite 1 [← hdivision]
    simp only [Convergents.next]
    ring
  refine ⟨?_, fun h => ?_, fun h => ?_⟩
  · rw [hq']
    exact (Nat.le_mul_of_pos_right _ hb).trans (Nat.le_add_right _ _)
  · have hzero : a % b = 0 := by
      rw [hfraction, div_eq_zero_iff, or_iff_left hb'] at h
      exact_mod_cast h
    rw [hzero, Nat.mul_zero, Nat.add_zero] at hp' hq'
    rw [hp', hq']
    ring
  · have hpos : 0 < a % b := by
      refine Nat.pos_of_ne_zero fun hzero => h ?_
      rw [hfraction, hzero, Nat.cast_zero, zero_div]
    refine ⟨b, a % b, hpos, by rw [hfraction, one_div_div], ?_, ?_⟩
    · exact hp'.trans (Nat.add_comm _ _)
    · exact hq'.trans (Nat.add_comm _ _)

theorem Expands.le_of_combines {p q : ℕ} (run : Expands max m rest c ds d)
    (h : Combines p q rest c) : ∀ e ∈ ds, e.q₁ ≤ q := by
  induction run with
  | beyond => exact nofun
  | found =>
    intro e he
    rw [List.mem_singleton.1 he]
    exact h.next.1
  | further _ hstops _ ih =>
    obtain ⟨hle, -, hnext⟩ := h.next
    exact List.forall_mem_cons.2 ⟨hle, ih (hnext fun h => hstops (.inl h))⟩

/-- **The search for a fraction of an allowed denominator** ends with the fraction or close to
it. -/
theorem Expands.ends_close {p q : ℕ} (run : Expands max m rest c ds d) (h : Combines p q rest c)
    (hq : q ≤ max) : d ∈ ds ∧ (d.p₁ * q = p * d.q₁ ∨ Close d.value m) := by
  induction run with
  | beyond hmax => exact absurd (h.next.1.trans hq) (not_le.2 hmax)
  | found _ hstops => exact ⟨List.mem_singleton.2 rfl, hstops.imp_left h.next.2.1⟩
  | further _ hstops _ ih =>
    obtain ⟨hmem, hd⟩ := ih (h.next.2.2 fun h => hstops (.inl h))
    exact ⟨List.mem_cons_of_mem _ hmem, hd⟩

/-- **Different fractions lie apart**: by more than the tolerance if the numerator of the one and
the denominator of the other are small. -/
theorem eq_of_close {p q : ℕ} (hq : 0 < q) (hd : 0 < d.q₁) (hsmall : p * d.q₁ < 10 ^ 12)
    (h : Close d.value (p / q)) : d.p₁ * q = p * d.q₁ := by
  have hcross : ((d.p₁ * q - p * d.q₁ : ℤ) : ℚ) = (d.value - p / q) * (d.q₁ * q) := by
    rw [Convergents.value]
    push_cast
    field_simp
  have hgap : |((d.p₁ * q - p * d.q₁ : ℤ) : ℚ)| < 1 := by
    rw [hcross, abs_mul, abs_of_pos (by positivity : (0 : ℚ) < d.q₁ * q)]
    calc |d.value - p / q| * (d.q₁ * q)
        ≤ 1 / 10 ^ 12 * (p / q) * (d.q₁ * q) := by gcongr; exact h
      _ = (p * d.q₁ : ℕ) / 10 ^ 12 := by push_cast; field_simp
      _ < 1 := by
        rw [div_lt_one (by positivity)]
        exact_mod_cast hsmall
  have hzero : (d.p₁ * q - p * d.q₁ : ℤ) = 0 := Int.abs_lt_one_iff.1 (by exact_mod_cast hgap)
  exact_mod_cast sub_eq_zero.1 hzero

/-- A pair with the cross product of a fraction has its value. -/
theorem value_eq {p q : ℕ} (hq : 0 < q) (hd : 0 < d.q₁) (h : d.p₁ * q = p * d.q₁) :
    d.value = p / q := by
  rw [Convergents.value, div_eq_div_iff (by positivity) (by positivity)]
  exact_mod_cast h

/-! ### The exponent of a number -/

theorem ofMagnitude?_eq (hd : expand max m (max + 3) m .start = d) :
    ofMagnitude? max m =
      if d.q₁ = 0 ∨ largest < d.p₁ ∨ largest < d.q₁ then none
      else if Close d.value m then some d.value else none := by
  unfold ofMagnitude?
  simp only [hd, close_iff, ratio_eq, Rat.mkRat_eq_div]
  rfl

/-- A magnitude with the sign of a number. -/
def signed (x y : ℚ) : ℚ := if x < 0 then -y else y

theorem ofScalar?_eq (max : ℕ) (x : ℚ) :
    ofScalar? max x =
      if x = 0 then some 0
      else if (largest : ℚ) < |x| ∨ (largest : ℚ) < 1 / |x| then none
      else (ofMagnitude? max |x|).map (signed x) := by
  have habs : (Expandable.abs x : ℚ) = |x| := by
    change (if x < 0 then -x else x) = |x|
    split
    · rename_i h
      exact (abs_of_neg h).symm
    · rename_i h
      exact (abs_of_nonneg (not_lt.1 h)).symm
  unfold ofScalar?
  rw [habs]
  simp only [isFinite, isZero, isNegative, exceeds, inverse, Bool.not_true, Bool.false_eq_true,
    if_false, beq_iff_eq, Bool.or_eq_true, decide_eq_true_eq]
  rfl

/-- **The search for an exact exponent** of a number, with a bound of denominators. -/
structure Searches (max : ℕ) (x : ℚ) : Prop where
  /-- The search ends, and it does so within the rounds that are counted. -/
  ends : ∃ ds d, Expands max |x| |x| .start ds d ∧ ds.length ≤ max + 2 ∧
    expand max |x| (max + 3) |x| .start = d
  /-- Neighbouring convergents have determinant one up to sign, so that each is in lowest terms. -/
  lowest : ∀ ds d, Expands max |x| |x| .start ds d → ∀ e ∈ ds,
    |(e.p₁ * e.q₀ - e.p₀ * e.q₁ : ℤ)| = 1 ∧ e.p₁.Coprime e.q₁ ∧ 1 ≤ e.q₁ ∧ e.q₁ ≤ max
  /-- A fraction that is found is within the bounds, has the sign of the number and differs from it
  by at most one part in `10^12`. -/
  found : ∀ q, ofScalar? max x = some q → 1 ≤ q.den ∧ q.den ≤ max ∧ |q.num| ≤ 2 ^ 31 - 1 ∧
    SignType.sign q = SignType.sign x ∧ |q - x| ≤ 1 / 10 ^ 12 * |x|
  /-- Up to the bound of denominators that is used unless another is asked for, a fraction of an
  allowed denominator and a numerator of 32 bits with a sign is found itself, and no convergent
  but the fraction is close to it. -/
  exact : max ≤ defaultDenominator → x.den ≤ max → |x.num| ≤ 2 ^ 31 - 1 →
    ofScalar? max x = some x ∧ ∀ ds d, Expands max |x| |x| .start ds d → ∀ e ∈ ds,
      Close e.value |x| → e.value = |x|

/-- What the magnitude of a number is to its terms. -/
theorem abs_eq_div (x : ℚ) : |x| = (x.num.natAbs : ℚ) / x.den := by
  rw [Rat.abs_def, Rat.divInt_eq_div, Int.cast_natCast, Int.cast_natCast]

/-- The terms of a pair in lowest terms are those of its value. -/
theorem Convergents.terms (h : d.p₁.Coprime d.q₁) (hq : 0 < d.q₁) :
    d.value.num = d.p₁ ∧ d.value.den = d.q₁ := by
  have hq' : (0 : ℤ) < d.q₁ := by exact_mod_cast hq
  have hvalue : d.value = ((d.p₁ : ℤ) : ℚ) / ((d.q₁ : ℤ) : ℚ) := by
    rw [value, Int.cast_natCast, Int.cast_natCast]
  refine ⟨?_, ?_⟩
  · rw [hvalue, Rat.num_div_eq_of_coprime hq' (by exact_mod_cast h)]
  · have hden := Rat.den_div_eq_of_coprime (a := d.p₁) hq' (by exact_mod_cast h)
    rw [← hvalue] at hden
    exact_mod_cast hden

/-- What is close to a positive number is positive. -/
theorem Close.pos {y : ℚ} (h : Close y m) (hm : 0 < m) : 0 < y := by
  have := (abs_le.1 h).1
  linarith

theorem sign_signed {y : ℚ} (hx : x ≠ 0) (hy : 0 < y) :
    SignType.sign (signed x y) = SignType.sign x := by
  unfold signed
  split
  · rename_i h
    rw [sign_neg h, sign_neg (neg_lt_zero.2 hy)]
  · rename_i h
    rw [sign_pos hy, sign_pos (lt_of_le_of_ne (not_lt.1 h) hx.symm)]

theorem abs_signed_sub (x y : ℚ) : |signed x y - x| = |y - (|x|)| := by
  unfold signed
  split
  · rename_i h
    rw [abs_of_neg h, ← abs_neg]
    congr 1
    ring
  · rename_i h
    rw [abs_of_nonneg (not_lt.1 h)]

theorem signed_abs (x : ℚ) : signed x |x| = x := by
  unfold signed
  split
  · rename_i h
    rw [abs_of_neg h, neg_neg]
  · rename_i h
    exact abs_of_nonneg (not_lt.1 h)

/-- The pairs that the search for a number passes through. -/
theorem Expands.of_start (run : Expands max |x| |x| .start ds d) :
    ∀ e ∈ ds, |e.det| = 1 ∧ 1 ≤ e.q₁ ∧ e.q₁ ≤ max :=
  run.of_mem (by decide) (abs_nonneg x)
    (by simp [Convergents.after, Convergents.next, Convergents.start])

/-- **What is found** is a pair that the search passes through, close to the magnitude. -/
theorem exists_of_ofScalar? (hx : x ≠ 0) {y : ℚ} (h : ofScalar? max x = some y) :
    ∃ d : Convergents, |d.det| = 1 ∧ (1 ≤ d.q₁ ∧ d.q₁ ≤ max) ∧ d.p₁ ≤ largest ∧
      Close d.value |x| ∧ y = signed x d.value := by
  obtain ⟨ds, d, run, hlen⟩ := exists_expands (m := |x|) max (abs_nonneg x)
  rw [ofScalar?_eq, if_neg hx] at h
  split at h
  · cases h
  · obtain ⟨v, hv, rfl⟩ := Option.map_eq_some_iff.1 h
    rw [ofMagnitude?_eq (run.expand_eq (hlen.trans (Nat.le_succ _)))] at hv
    split at hv
    · cases hv
    · rename_i hterms
      split at hv
      · rename_i hclose
        simp only [not_or, not_lt] at hterms
        cases hv
        have hmem : d ∈ ds := by
          rcases run.end_mem with ⟨rfl, -⟩ | hmem
          · exact absurd rfl hterms.1
          · exact hmem
        obtain ⟨hdet, hq⟩ := run.of_start d hmem
        exact ⟨d, hdet, hq, hterms.2.1, hclose, rfl⟩
      · cases hv

/-- A number whose terms have 32 bits with a sign is neither too large nor too small. -/
theorem not_exceeds (hx : x ≠ 0) (hnum : x.num.natAbs ≤ largest) (hden : x.den ≤ largest) :
    ¬ ((largest : ℚ) < |x| ∨ (largest : ℚ) < 1 / |x|) := by
  have hnum' : 1 ≤ x.num.natAbs := Int.natAbs_pos.2 (Rat.num_ne_zero.2 hx)
  have hden' : 1 ≤ x.den := x.den_pos
  rw [abs_eq_div, one_div_div, not_or, not_lt, not_lt,
    div_le_iff₀ (by exact_mod_cast hden'), div_le_iff₀ (by exact_mod_cast hnum')]
  exact ⟨by exact_mod_cast hnum.trans (Nat.le_mul_of_pos_right _ hden'),
    by exact_mod_cast hden.trans (Nat.le_mul_of_pos_right _ hnum')⟩

/-- **A fraction of a small denominator** is found itself, and no pair but one of its value is close
to it. -/
theorem ofScalar?_eq_some (hmax : max ≤ defaultDenominator) (hden : x.den ≤ max)
    (hnum : x.num.natAbs ≤ largest) :
    ofScalar? max x = some x ∧ ∀ ds d, Expands max |x| |x| .start ds d → ∀ e ∈ ds,
      Close e.value |x| → e.value = |x| := by
  have hcombines : Combines x.num.natAbs x.den |x| .start := by
    rw [abs_eq_div x]
    exact combines_start x.den_pos
  have hlargest : max ≤ largest := hmax.trans (by decide)
  have hcross {ds : List Convergents} {d e : Convergents}
      (run : Expands max |x| |x| .start ds d) (he : e ∈ ds) (hclose : Close e.value |x|) :
      e.p₁ * x.den = x.num.natAbs * e.q₁ := by
    obtain ⟨-, hpos, hle⟩ := run.of_start e he
    have hsmall : x.num.natAbs * e.q₁ < 10 ^ 12 :=
      (Nat.mul_le_mul hnum (hle.trans hmax)).trans_lt (by decide)
    rw [abs_eq_div x] at hclose
    exact eq_of_close x.den_pos hpos hsmall hclose
  have hvalue {ds : List Convergents} {d e : Convergents}
      (run : Expands max |x| |x| .start ds d) (he : e ∈ ds)
      (h : e.p₁ * x.den = x.num.natAbs * e.q₁) : e.value = |x| := by
    rw [abs_eq_div x]
    exact value_eq x.den_pos (run.of_start e he).2.1 h
  refine ⟨?_, fun ds d run e he hclose => hvalue run he (hcross run he hclose)⟩
  rcases eq_or_ne x 0 with hx | hx
  · rw [ofScalar?_eq, if_pos hx, hx]
  · obtain ⟨ds, d, run, hlen⟩ := exists_expands (m := |x|) max (abs_nonneg x)
    obtain ⟨hmem, hd⟩ := run.ends_close hcombines hden
    have hd : d.p₁ * x.den = x.num.natAbs * d.q₁ := hd.elim id (hcross run hmem)
    obtain ⟨-, hpos, hle⟩ := run.of_start d hmem
    -- the denominator of the pair is no larger than the one of the fraction
    have hp : d.p₁ ≤ x.num.natAbs := by
      refine Nat.le_of_mul_le_mul_right ?_ x.den_pos
      rw [hd]
      exact Nat.mul_le_mul_left _ (run.le_of_combines hcombines d hmem)
    have hclose : Close d.value |x| := by
      rw [hvalue run hmem hd, Close, sub_self, abs_zero]
      positivity
    rw [ofScalar?_eq, if_neg hx, if_neg (not_exceeds hx hnum (hden.trans hlargest)),
      ofMagnitude?_eq (run.expand_eq (hlen.trans (Nat.le_succ _))), if_neg, if_pos hclose,
      Option.map_some, hvalue run hmem hd, signed_abs]
    rw [not_or, not_or, not_lt, not_lt]
    exact ⟨Nat.pos_iff_ne_zero.1 hpos, hp.trans hnum, hle.trans hlargest⟩

/-- **The search for an exact exponent is correct and ends** for every number and every bound of
denominators. -/
theorem searches_of_pos (hmax : 1 ≤ max) (x : ℚ) : Searches max x := by
  obtain ⟨ds, d, run, hlen⟩ := exists_expands (m := |x|) max (abs_nonneg x)
  have hexpand := run.expand_eq (hlen.trans (Nat.le_succ _))
  have hlargest : (largest : ℤ) = 2 ^ 31 - 1 := by decide
  refine ⟨⟨ds, d, run, hlen, hexpand⟩, fun ds d run e he => ?_, fun y hy => ?_,
    fun hdefault hden hnum => ofScalar?_eq_some hdefault hden ?_⟩
  · obtain ⟨hdet, hq⟩ := run.of_start e he
    exact ⟨hdet, Convergents.coprime hdet, hq⟩
  · rcases eq_or_ne x 0 with rfl | hx
    · rw [ofScalar?_eq, if_pos rfl] at hy
      cases hy
      exact ⟨Nat.le_refl 1, hmax, by decide, rfl, by simp⟩
    · obtain ⟨d, hdet, hq, hp, hclose, rfl⟩ := exists_of_ofScalar? hx hy
      obtain ⟨hnum, hden⟩ := Convergents.terms (Convergents.coprime hdet) hq.1
      have hsigned : (signed x d.value).den = d.q₁ ∧ |(signed x d.value).num| = d.p₁ := by
        unfold signed
        split <;> simp [hnum, hden]
      refine ⟨hsigned.1 ▸ hq.1, hsigned.1 ▸ hq.2, ?_,
        sign_signed hx (hclose.pos (abs_pos.2 hx)), ?_⟩
      · rw [hsigned.2, ← hlargest]
        exact_mod_cast hp
      · rw [abs_signed_sub]
        exact hclose
  · rw [← hlargest, Int.abs_eq_natAbs] at hnum
    exact_mod_cast hnum

/-- The largest numerator over the largest denominator is found, as well as its opposite. -/
theorem searches_at_limit : 1 ≤ defaultDenominator ∧
    ofScalar? defaultDenominator (2147483647 / 24 : ℚ) = some (2147483647 / 24) ∧
    ofScalar? defaultDenominator (-2147483647 / 24 : ℚ) = some (-2147483647 / 24) := by
  have hpos : 1 ≤ defaultDenominator := by decide
  have hsearch := searches_of_pos hpos
  refine ⟨hpos, ?_, ?_⟩
  · exact ((hsearch _).exact (Nat.le_refl _) (by decide +kernel) (by decide +kernel)).1
  · exact ((hsearch _).exact (Nat.le_refl _) (by decide +kernel) (by decide +kernel)).1

end Exponent
end QuantityCalculus
