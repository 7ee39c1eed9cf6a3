/-
# Blanks at the ends of a text

Blanks before the first token and after the last one are skipped. So a text stands for the same
without the blanks at its ends, and the contents of its nodes are the same.

**Main statement.** `read_trimmed`: reading without the blanks at the ends.
-/

import QuantityCalculus.Proofs.Expr.Reread

namespace QuantityCalculus
namespace Expr

open Token Text

variable {isUnit : String → Bool} {e : Expr} {ts : List Token}

/-- The first character of a token that is known is no blank. -/
theorem isBlank_of_split {m : Marks} (hm : Inked m) {c : Char} {cs : List Char}
    (hk : (split m c cs).1 ≠ .unknown) : isBlank c = false := by
  have happend := split_append m c cs
  have hlen := split_length m c cs
  refine split_ink hm hk c ?_
  cases hword : (split m c cs).2.1 with
  | nil =>
    rw [hword, List.nil_append] at happend
    rw [happend, List.length_cons] at hlen
    omega
  | cons a word =>
    rw [hword] at happend
    exact (List.cons.inj happend).1 ▸ List.mem_cons_self ..

/-- A part that goes from the first token of a text to its end is the text without the blanks at
its ends. -/
theorem trim_part {m : Marks} (hm : Inked m) {text : String} {t next : Token}
    (hscan : scan m text = t :: ts ++ [next]) (hk : Proper t) (p : Part m text (t :: ts) next) :
    trim text.toList = p.part := by
  have hscans : Scans m 0 text.toList (t :: ts ++ [next]) := scan_eq_iff.1 hscan
  have hlast := hscans.column_last
  have hnext := p.next_column
  have hfirst := p.first_column t rfl
  rcases Scans.uncons hscans with ⟨hnil, -, -⟩ | ⟨gap, c, cs, htext, hgap, hc, rfl, -⟩
  · simp at hnil
  have hbefore : p.before = gap ∧ p.part ++ (p.gap ++ p.after) = c :: cs :=
    List.append_inj (p.text_eq.symm.trans htext) (by simpa using hfirst.symm)
  have hafter : p.after = [] := by
    have hlen := congrArg List.length p.text_eq
    simp only [List.length_append] at hlen
    exact List.length_eq_zero_iff.1 (by omega)
  rw [hafter, List.append_nil] at hbefore
  have hblank {cs : List Char} (h : IsGap cs) : ∀ c ∈ cs, isBlank c = true :=
    fun c hc => isBlank_of_isGap (h c hc)
  have hink : isBlank c = false := isBlank_of_split hm hk.2
  cases hpart : p.part with
  | nil =>
    rw [hpart, List.nil_append] at hbefore
    have hcgap := p.isGap c (hbefore.2 ▸ List.mem_cons_self ..)
    rw [hc] at hcgap
    cases hcgap
  | cons a part =>
    have hend := p.endsInInk
    rw [hpart] at hend hbefore
    obtain rfl : a = c := (List.cons.inj hbefore.2).1
    rw [p.text_eq, hafter, List.append_nil, hpart, hbefore.1]
    exact trim_append (hblank hgap) hink hend (hblank p.isGap)

/-- **A text without the blanks at its ends** stands for the same, if no mark is a blank. -/
theorem read_trimmed {m : Marks} (hm : Inked m) {text : String} (h : read m isUnit text = .ok e) :
    read m isUnit (trimmed text) = .ok e := by
  obtain ⟨k, rest, hk, hr, hend⟩ := ofTokens_eq_ok_iff.1 h
  obtain ⟨seg, hseg, hscan, hproper⟩ := hr.consumed
  obtain ⟨next, rfl⟩ := hr.rest_eq_last hend
  obtain ⟨t, seg, rfl⟩ := List.exists_cons_of_ne_nil hseg
  rw [hscan] at hr
  have hwhole : scan m text = [] ++ (t :: seg ++ [next]) := hscan
  obtain ⟨p, hread⟩ := hr.alone hm hwhole trivial hseg hproper
  rw [trimmed, trim_part hm hscan (hproper t (List.mem_cons_self ..)) p, read, hk]
  exact hread

end Expr
end QuantityCalculus
