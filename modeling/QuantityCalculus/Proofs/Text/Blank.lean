/-
# Blanks and trimming

Letters and digits are no blanks: their ranges do not meet. A text is trimmed when its last
character is no blank, and then blanks behind it are all that is dropped.

**Main statements.** `isBlank_of_isLetter`, `isBlank_of_isDigit`, `trimEnd_append` and `trim_trim`.
-/

import QuantityCalculus.Text.Blank
import QuantityCalculus.Text.Letter
import QuantityCalculus.Text.Numeral

namespace QuantityCalculus
namespace Text

/-- What the walk finds is covered, also where ranges are out of order. -/
theorem exists_of_covers {ranges : List (Nat × Nat)} {n : Nat} (h : covers ranges n = true) :
    ∃ r ∈ ranges, r.1 ≤ n ∧ n ≤ r.2 := by
  induction ranges with
  | nil => cases h
  | cons r rest ih =>
    obtain ⟨lo, hi⟩ := r
    rw [covers] at h
    split at h
    · cases h
    · split at h
      · exact ⟨(lo, hi), List.mem_cons_self .., by omega, by omega⟩
      · obtain ⟨r, hr, hn⟩ := ih h
        exact ⟨r, List.mem_cons_of_mem _ hr, hn⟩

/-- A letter is no blank. -/
theorem isBlank_of_isLetter {c : Char} (h : isLetter c = true) : isBlank c = false := by
  obtain ⟨r, hr, h₁, h₂⟩ := exists_of_covers h
  refine Bool.eq_false_iff.2 fun hb => ?_
  obtain ⟨b, hb, h₃, h₄⟩ := exists_of_covers hb
  have key : ∀ r ∈ letterRanges, ∀ b ∈ blankRanges, r.2 < b.1 ∨ b.2 < r.1 := by decide +kernel
  rcases key r hr b hb with h | h <;> omega

/-- A digit is no blank. -/
theorem isBlank_of_isDigit {c : Char} (h : isDigit c = true) : isBlank c = false := by
  obtain ⟨d, hd⟩ := Option.isSome_iff_exists.1 h
  obtain ⟨z, hz, -⟩ := Option.map_eq_some_iff.1 hd
  have hmem := List.mem_of_find?_eq_some hz
  have hz := List.find?_some hz
  simp only [Bool.and_eq_true, decide_eq_true_eq] at hz
  refine Bool.eq_false_iff.2 fun hb => ?_
  obtain ⟨b, hb, h₃, h₄⟩ := exists_of_covers hb
  have key : ∀ z ∈ zeroDigits, ∀ b ∈ blankRanges, z + 9 < b.1 ∨ b.2 < z := by decide +kernel
  rcases key z hmem b hb with h | h <;> omega

/-- The last character, if there is one, is no blank. -/
def EndsInInk (cs : List Char) : Prop := ∀ c ∈ cs.getLast?, isBlank c = false

/-- A run of characters that are no blanks ends in ink. -/
theorem endsInInk_of_forall {cs : List Char} (h : ∀ c ∈ cs, isBlank c = false) : EndsInInk cs :=
  fun c hc => h c (List.mem_of_getLast? hc)

/-- **Blanks behind a trimmed text** are all that is dropped. -/
theorem trimEnd_append {cs gap : List Char} (h : EndsInInk cs)
    (hg : ∀ c ∈ gap, isBlank c = true) : trimEnd (cs ++ gap) = cs := by
  have hrev : ∀ c ∈ gap.reverse, isBlank c = true := fun c hc => hg c (List.mem_reverse.1 hc)
  rw [trimEnd, List.reverse_append, List.dropWhile_append_of_pos hrev]
  rcases List.eq_nil_or_concat cs with rfl | ⟨cs, c, rfl⟩
  · rfl
  · have hc : isBlank c = false := h c (by simp)
    simp [hc]

theorem EndsInInk.trimEnd {cs : List Char} (h : EndsInInk cs) : trimEnd cs = cs := by
  have hg : ∀ c ∈ ([] : List Char), isBlank c = true := by simp
  simpa using trimEnd_append h hg

theorem endsInInk_trimEnd (cs : List Char) : EndsInInk (trimEnd cs) := by
  intro c hc
  rw [trimEnd, List.getLast?_reverse] at hc
  have hhead := List.head?_dropWhile_not isBlank cs.reverse
  rw [Option.mem_def.1 hc] at hhead
  simpa using hhead

theorem isPrefix_trimEnd (cs : List Char) : trimEnd cs <+: cs := by
  have hsuffix : cs.reverse.dropWhile isBlank <:+ cs.reverse := List.dropWhile_suffix _
  rw [trimEnd]
  simpa using List.reverse_prefix.2 hsuffix

/-- Trimming takes a part out of a text. -/
theorem isInfix_trim (cs : List Char) : trim cs <:+: cs :=
  (isPrefix_trimEnd _).isInfix.trans (List.dropWhile_suffix _).isInfix

/-- **A trimmed text** stays as it is. -/
theorem trim_trim (cs : List Char) : trim (trim cs) = trim cs := by
  have hhead : ∀ c ∈ (trim cs).head?, isBlank c = false := by
    intro c hc
    obtain ⟨rest, hrest⟩ := List.head?_eq_some_iff.1 (Option.mem_def.1 hc)
    obtain ⟨tail, htail⟩ := isPrefix_trimEnd (cs.dropWhile isBlank)
    have hnot := List.head?_dropWhile_not isBlank cs
    rw [← htail, show trimEnd (cs.dropWhile isBlank) = c :: rest from hrest] at hnot
    simpa using hnot
  have hdrop : (trim cs).dropWhile isBlank = trim cs := by
    cases h : trim cs with
    | nil => rfl
    | cons c rest =>
      have hc : isBlank c = false := hhead c (by rw [h]; rfl)
      rw [List.dropWhile_cons, hc]
      rfl
  rw [trim, hdrop]
  exact (endsInInk_trimEnd _).trimEnd

/-- **Blanks around a text** that neither starts nor ends with one are all that is dropped. -/
theorem trim_append {before gap cs : List Char} {c : Char} (hb : ∀ b ∈ before, isBlank b = true)
    (hc : isBlank c = false) (hend : EndsInInk (c :: cs)) (hg : ∀ b ∈ gap, isBlank b = true) :
    trim (before ++ (c :: cs ++ gap)) = c :: cs := by
  have hstart : (c :: cs ++ gap).dropWhile isBlank = c :: cs ++ gap := by
    rw [List.cons_append, List.dropWhile_cons, hc]
    rfl
  rw [trim, List.dropWhile_append_of_pos hb, hstart, trimEnd_append hend hg]

theorem trimmed_trimmed (s : String) : trimmed (trimmed s) = trimmed s := by
  rw [trimmed, trimmed, String.toList_ofList, trim_trim]

/-- What stands in front of a text that is not empty does not matter. -/
theorem EndsInInk.behind {as cs : List Char} (h : EndsInInk cs) (hne : cs ≠ []) :
    EndsInInk (as ++ cs) := by
  intro c hc
  obtain ⟨cs, d, rfl⟩ : ∃ cs' d, cs = cs' ++ [d] :=
    ⟨cs.dropLast, cs.getLast hne, (List.dropLast_concat_getLast hne).symm⟩
  rw [← List.append_assoc, List.getLast?_concat] at hc
  exact h c (by rw [List.getLast?_concat]; exact hc)

theorem EndsInInk.drop {cs : List Char} (h : EndsInInk cs) (k : Nat) : EndsInInk (cs.drop k) := by
  intro c hc
  rw [List.getLast?_drop] at hc
  split at hc
  · cases hc
  · exact h c hc

end Text
end QuantityCalculus
