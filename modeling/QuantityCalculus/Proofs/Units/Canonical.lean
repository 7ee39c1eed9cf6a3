/-
# Units in canonical form

A unit is built from powers of symbols that may repeat and come in any order. What is kept
of them is the sum of the exponents at every symbol: `mem_factors_iff` and `get?_eq`
read a unit back from those sums, so two lists of powers make the same unit exactly when
they have the same sums (`ofList_eq_iff`).

Equality of units is equality of exponents (`eq_iff_exponent`), and it is also equality of
the sets of factors (`eq_iff_factorSet`), of which a hash is taken. The laws of products,
quotients and powers then hold because they hold of the exponents, symbol by symbol.

**Main statement.** `canonical_products`: all of this together.
-/

import Mathlib.Algebra.BigOperators.Group.List.Basic
import Mathlib.Data.Finset.Dedup
import Mathlib.Tactic.Ring
import QuantityCalculus.Units.Basic

namespace QuantityCalculus
namespace Units

variable {u v : Units} {fs gs : List (String × Rat)} {s : String}

/-- The sum of the exponents that a list of powers gives to a symbol. -/
def exponentSum (s : String) (fs : List (String × Rat)) : Rat :=
  ((fs.filter fun f => f.1 = s).map (·.2)).sum

/-- The factors as a set: the order they are kept in does not count. -/
def factorSet (u : Units) : Finset (String × Rat) := u.factors.toFinset

theorem total_eq_exponentSum (s : String) (fs : List (String × Rat)) :
    total s fs = exponentSum s fs := by
  induction fs with
  | nil => rfl
  | cons f rest ih =>
    by_cases h : f.1 = s
    · simp [total, exponentSum, h, ih]
    · simp [total, exponentSum, h, ih]

theorem exponentSum_perm (h : fs.Perm gs) (s : String) : exponentSum s fs = exponentSum s gs :=
  ((h.filter _).map _).sum_eq

theorem exponent_ofList_eq_sum (fs : List (String × Rat)) (s : String) :
    (ofList fs).exponent s = exponentSum s fs := by
  rw [exponent_ofList, total_eq_exponentSum]

/-! ## Reading a unit back -/

/-- In an ascending list a factor carries the exponent of its symbol. -/
theorem mem_iff_exponentIn (h : fs.Pairwise fun a b => a.1 < b.1) (nz : ∀ f ∈ fs, f.2 ≠ 0)
    (f : String × Rat) : f ∈ fs ↔ exponentIn f.1 fs = f.2 ∧ f.2 ≠ 0 := by
  induction fs with
  | nil =>
    simp only [List.not_mem_nil, exponentIn, false_iff, not_and, not_not]
    exact Eq.symm
  | cons g rest ih =>
    obtain ⟨t, r⟩ := g
    obtain ⟨ht, hrest⟩ := List.pairwise_cons.1 h
    have ih := ih hrest fun f hf => nz f (by simp [hf])
    rw [List.mem_cons, ih]
    by_cases e : t = f.1
    · have absent : exponentIn f.1 rest = 0 :=
        exponentIn_eq_zero fun g hg e' => ne_of_forall_lt ht g hg (e'.trans e.symm)
      have hr : r ≠ 0 := nz (t, r) (by simp)
      simp only [exponentIn, e, if_true, absent]
      constructor
      · rintro (hf | ⟨h0, hne⟩)
        · have hf2 : f.2 = r := congrArg Prod.snd hf
          exact ⟨hf2.symm, hf2 ▸ hr⟩
        · exact absurd h0.symm hne
      · rintro ⟨hf, -⟩
        exact Or.inl (by rw [hf])
    · simp only [exponentIn, e, if_false, or_iff_right_iff_imp]
      rintro rfl
      exact absurd rfl e

/-- **The factors of a unit** are its symbols with their exponents, where these are not zero. -/
theorem mem_factors_iff (u : Units) (f : String × Rat) :
    f ∈ u.factors ↔ u.exponent f.1 = f.2 ∧ f.2 ≠ 0 :=
  mem_iff_exponentIn u.ascending u.nonzero f

/-- The first factor of a symbol that a list of factors without zeros holds. -/
theorem find?_factor (nz : ∀ f ∈ fs, f.2 ≠ 0) (s : String) :
    (fs.find? fun f => f.1 = s).map (·.2) =
      if exponentIn s fs = 0 then Option.none else some (exponentIn s fs) := by
  induction fs with
  | nil => simp [exponentIn]
  | cons g rest ih =>
    by_cases e : g.1 = s
    · have hg : g.2 ≠ 0 := nz g (by simp)
      simp [exponentIn, e, hg]
    · have ih := ih fun f hf => nz f (by simp [hf])
      simpa [exponentIn, e] using ih

/-- **A symbol that occurs is looked up** with its exponent, and one with exponent zero is not
found. -/
theorem get?_eq (u : Units) (s : String) :
    u.get? s = if u.exponent s = 0 then Option.none else some (u.exponent s) :=
  find?_factor u.nonzero s

/-! ## Equality -/

theorem eq_iff_exponent : u = v ↔ ∀ s, u.exponent s = v.exponent s :=
  ⟨fun h _ => h ▸ rfl, ext_exponent⟩

/-- **Units are equal when they have the same set of factors.** -/
theorem eq_iff_factorSet : u = v ↔ u.factorSet = v.factorSet := by
  refine ⟨fun h => h ▸ rfl, fun h => ext_exponent fun s => ?_⟩
  have same : ∀ q : Rat, q ≠ 0 → (u.exponent s = q ↔ v.exponent s = q) := by
    intro q hq
    have h := Finset.ext_iff.1 h (s, q)
    simpa [factorSet, mem_factors_iff, hq] using h
  by_cases hu : u.exponent s = 0
  · by_cases hv : v.exponent s = 0
    · rw [hu, hv]
    · exact (same _ hv).2 rfl
  · exact ((same _ hu).1 rfl).symm

/-- **Two lists of powers make the same unit** exactly when they give every symbol the same sum. -/
theorem ofList_eq_iff : ofList fs = ofList gs ↔ ∀ s, exponentSum s fs = exponentSum s gs := by
  simp only [eq_iff_exponent, exponent_ofList_eq_sum]

/-! ## Laws -/

theorem isNone_iff : u.isNone = true ↔ ∀ s, u.exponent s = 0 := by
  have h : u.isNone = true ↔ u = none := by
    obtain ⟨fs, ha, hn⟩ := u
    simp [isNone, none]
  simp [h, eq_iff_exponent]

protected theorem mul_assoc (u v w : Units) : (u * v) * w = u * (v * w) :=
  ext_exponent fun s => by simp only [exponent_mul]; ring

protected theorem mul_comm (u v : Units) : u * v = v * u :=
  ext_exponent fun s => by simp only [exponent_mul]; ring

protected theorem mul_div_cancel (u v : Units) : (u * v) / v = u :=
  ext_exponent fun s => by simp only [exponent_mul, exponent_div]; ring

protected theorem div_mul_cancel (u v : Units) : (u / v) * v = u :=
  ext_exponent fun s => by simp only [exponent_mul, exponent_div]; ring

protected theorem div_self (u : Units) : (u / u).isNone = true :=
  isNone_iff.2 fun s => by simp only [exponent_div]; ring

theorem pow_pow (u : Units) (p q : Rat) : (u.pow p).pow q = u.pow (p * q) :=
  ext_exponent fun s => by simp only [exponent_pow]; ring

theorem mul_pow (u v : Units) (q : Rat) : (u * v).pow q = u.pow q * v.pow q :=
  ext_exponent fun s => by simp only [exponent_pow, exponent_mul]; ring

theorem pow_mul_pow (u : Units) (p q : Rat) : u.pow p * u.pow q = u.pow (p + q) :=
  ext_exponent fun s => by simp only [exponent_pow, exponent_mul]; ring

theorem pow_zero (u : Units) : (u.pow 0).isNone = true :=
  isNone_iff.2 fun s => by simp only [exponent_pow]; ring

/-- **Units are formal products with rational exponents in canonical form.** A unit made from
a list of powers holds for each symbol the sum of its exponents, unless that is zero, in
ascending order of symbols. So units are equal, and equal as sets of factors, exactly when
their exponents are; no order and no repetition counts; and the laws of exponents hold. -/
theorem canonical_products :
    (∀ fs s, (ofList fs).exponent s = exponentSum s fs ∧
      (ofList fs).get? s =
        if exponentSum s fs = 0 then Option.none else some (exponentSum s fs)) ∧
    (∀ fs, (ofList fs).toList.Pairwise (fun a b => a.1 < b.1) ∧
      ∀ f, f ∈ (ofList fs).toList ↔ exponentSum f.1 fs = f.2 ∧ f.2 ≠ 0) ∧
    (∀ u v : Units, (u = v ↔ ∀ s, u.exponent s = v.exponent s) ∧
      (u.factorSet = v.factorSet ↔ ∀ s, u.exponent s = v.exponent s)) ∧
    (∀ fs gs, (ofList fs = ofList gs ↔ ∀ s, exponentSum s fs = exponentSum s gs) ∧
      (fs.Perm gs → ofList fs = ofList gs)) ∧
    (∀ u v w : Units, (u * v) * w = u * (v * w) ∧ u * v = v * u ∧ (u * v) / v = u ∧
      (u / v) * v = u ∧ (u / u).isNone = true) ∧
    ∀ (u v : Units) (p q : Rat), (u.pow p).pow q = u.pow (p * q) ∧
      (u * v).pow q = u.pow q * v.pow q ∧ u.pow p * u.pow q = u.pow (p + q) ∧
      (u.pow 0).isNone = true := by
  refine ⟨fun fs s => ⟨exponent_ofList_eq_sum fs s, ?_⟩, fun fs => ⟨(ofList fs).ascending, ?_⟩,
    fun u v => ⟨eq_iff_exponent, eq_iff_factorSet.symm.trans eq_iff_exponent⟩,
    fun fs gs => ⟨ofList_eq_iff, fun h => ofList_eq_iff.2 (exponentSum_perm h)⟩,
    fun u v w => ⟨?_, ?_, ?_, ?_, ?_⟩, fun u v p q => ⟨?_, ?_, ?_, ?_⟩⟩
  · rw [get?_eq, exponent_ofList_eq_sum]
  · intro f
    rw [toList, mem_factors_iff, exponent_ofList_eq_sum]
  · exact Units.mul_assoc u v w
  · exact Units.mul_comm u v
  · exact Units.mul_div_cancel u v
  · exact Units.div_mul_cancel u v
  · exact Units.div_self u
  · exact pow_pow u p q
  · exact mul_pow u v q
  · exact pow_mul_pow u p q
  · exact pow_zero u

end Units
end QuantityCalculus
