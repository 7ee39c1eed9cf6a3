/-
# Lone surrogates

Half of a surrogate pair that stands alone has no character. It is kept as the private
character that lies `0x100000` code points above it, and written as the half that it was.

**Main statement.** The half that a character was made for is found again (`half?_ofHalf`).
-/

namespace QuantityCalculus
namespace Text

/-- Whether a code unit is half of a pair. -/
def isHalf (n : Nat) : Bool := 0xD800 ≤ n && n < 0xE000

/-- The character that a lone half is kept as. -/
def ofHalf (n : Nat) : Char := Char.ofNat (0x100000 + n)

/-- The half that a character is kept for. -/
def half? (c : Char) : Option Nat :=
  if 0x10D800 ≤ c.toNat && c.toNat < 0x10E000 then some (c.toNat - 0x100000) else none

/-- Whether a text holds a lone half. -/
def hasHalf (s : String) : Bool := s.toList.any fun c => (half? c).isSome

/-- **The half** that a character was made for is found again. -/
theorem half?_ofHalf {n : Nat} (h : isHalf n = true) : half? (ofHalf n) = some n := by
  simp only [isHalf, Bool.and_eq_true, decide_eq_true_eq] at h
  have valid : (0x100000 + n).isValidChar := .inr (by omega)
  have value : (ofHalf n).toNat = 0x100000 + n := by
    unfold ofHalf Char.ofNat
    rw [dif_pos valid]
    rfl
  simp only [half?, value]
  have low : 0x10D800 ≤ 0x100000 + n := by omega
  have high : 0x100000 + n < 0x10E000 := by omega
  simp [low, high]

end Text
end QuantityCalculus
