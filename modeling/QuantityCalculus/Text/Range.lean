/-
# Ranges of code points

A character class of the Unicode standard is kept as an ascending list of closed
ranges of code points, and membership is decided by one walk down that list.

**Main statement.** A code point is found exactly when one of the ranges covers it,
for every list whose ranges ascend (`covers_iff`).
-/

namespace QuantityCalculus
namespace Text

/-- Whether one of the ranges of an ascending list covers `n`; the walk stops at the
first range that starts above `n`. -/
def covers : List (Nat × Nat) → Nat → Bool
  | [], _ => false
  | (lo, hi) :: rest, n => if n < lo then false else if n ≤ hi then true else covers rest n

/-- The ranges of a list start in ascending order. -/
def Ascending (ranges : List (Nat × Nat)) : Prop :=
  ranges.Pairwise fun a b => a.1 < b.1

/-- **Lookup is coverage:** on an ascending list the walk finds exactly the covered code
points. -/
theorem covers_iff {ranges : List (Nat × Nat)} (h : Ascending ranges) (n : Nat) :
    covers ranges n = true ↔ ∃ r ∈ ranges, r.1 ≤ n ∧ n ≤ r.2 := by
  induction ranges with
  | nil => simp [covers]
  | cons r rest ih =>
    obtain ⟨lo, hi⟩ := r
    have hr := List.pairwise_cons.1 h
    have ih := ih hr.2
    by_cases h1 : n < lo
    · have : ∀ s ∈ rest, ¬ (s.1 ≤ n ∧ n ≤ s.2) := fun s hs => by
        have := hr.1 s hs
        simp only at this
        omega
      simp only [covers, h1, if_true, List.mem_cons, exists_eq_or_imp]
      constructor
      · intro h; cases h
      · rintro (h | ⟨s, hs, h⟩)
        · omega
        · exact absurd h (this s hs)
    · by_cases h2 : n ≤ hi
      · simp [covers, h1, h2, Nat.le_of_not_lt h1]
      · simp only [covers, h1, if_false, h2, ih, List.mem_cons, exists_eq_or_imp]
        constructor
        · exact Or.inr
        · rintro (h | h)
          · exact h.2.elim
          · exact h

end Text
end QuantityCalculus
