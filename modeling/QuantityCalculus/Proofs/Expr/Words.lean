/-
# Words decide what a text stands for

The units that there are come into reading only where a word is asked whether it is a unit. So a
text stands for the same expression with other units, and is refused for the same reason, as long
as its words are units as before.

**Main statement.** `read_of_words`: reading with other units.
-/

import QuantityCalculus.Proofs.Expr.Paired

namespace QuantityCalculus
namespace Expr

/-- The words of a text. -/
def words (m : Marks) (text : String) : List String :=
  ((Token.scan m text).filter fun t => t.kind == .word).map Token.content

theorem mem_words {m : Marks} {text : String} {t : Token} (ht : t ∈ Token.scan m text)
    (hk : t.kind = .word) : t.content ∈ words m text :=
  List.mem_map.2 ⟨t, List.mem_filter.2 ⟨ht, by simp [hk]⟩, rfl⟩

/-- **A text stands for the same with other units,** or is refused for the same reason, if its
words are units as before. -/
theorem read_of_words {m : Marks} {isUnit isUnit' : String → Bool} {text : String}
    (hw : ∀ w ∈ words m text, isUnit' w = isUnit w) :
    read m isUnit' text = read m isUnit text := by
  have hpaired : Paired True ⟨text.toList, isUnit⟩ ⟨text.toList, isUnit'⟩ (Token.scan m text)
      (Token.scan m text) :=
    { lexemes := .refl _
      units := fun t ht hk => hw t.content (mem_words ht hk)
      tokens := fun _ => rfl
      text := fun _ => rfl }
  exact (paired_ofTokens hpaired).eq_of_places

end Expr
end QuantityCalculus
