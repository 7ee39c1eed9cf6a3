/-
# Names that are read

A word of an expression starts with a letter and goes on with letters, decimal digits and
underscores, whatever the marks. So it has the form of a name, and what an expression assigns to is
a name that a variable may have, unless it is the reserved word: in front of an equals sign, that
one is read like any other word.

**Main statements.** `names_subset_words`: the names in what is read are words of the text;
`assigns_written`: the targets of assignments in what is read.
-/

import QuantityCalculus.Name
import QuantityCalculus.Proofs.Expr.Cut
import QuantityCalculus.Proofs.Expr.Nodes
import QuantityCalculus.Proofs.Expr.Print
import QuantityCalculus.Proofs.Expr.Readers
import QuantityCalculus.Proofs.Expr.Words
import QuantityCalculus.Proofs.Machine.Frame
import QuantityCalculus.Proofs.Text.Blank

namespace QuantityCalculus

/-- A word of an expression, as a name for a variable: a valid one or the reserved one. -/
def Name.Written (name : String) : Prop :=
  Name.check name .variable = .ok () ∨ name = Name.reserved

/-! ### Words -/

namespace Text

/-- The digits of a script stand between the ranges of letters. -/
theorem digits_apart : (zeroDigits.all fun z => letterRanges.all fun r =>
    Nat.blt (z + 9) r.1 || Nat.blt r.2 z) = true := by
  decide +kernel

/-- No letter is a decimal digit. -/
theorem isDigit_of_isLetter {c : Char} (h : isLetter c = true) : isDigit c = false := by
  obtain ⟨r, hr, h₁, h₂⟩ := exists_of_covers h
  refine Bool.eq_false_iff.2 fun hd => ?_
  obtain ⟨d, hd⟩ := Option.isSome_iff_exists.1 hd
  obtain ⟨z, hz, -⟩ := Option.map_eq_some_iff.1 hd
  have hmem := List.mem_of_find?_eq_some hz
  have hdigit := List.find?_some hz
  simp only [Bool.and_eq_true, decide_eq_true_eq] at hdigit
  have hapart := List.all_eq_true.1 (List.all_eq_true.1 digits_apart z hmem) r hr
  simp only [Bool.or_eq_true, Nat.blt_eq] at hapart
  omega

end Text

namespace Name

open Text Token

theorem isNameChar_of_isWordChar {c : Char} (h : isWordChar c = true) : isNameChar c = true := by
  simp only [isWordChar, Bool.or_eq_true] at h
  simp only [isNameChar, Bool.or_eq_true]
  rcases h with (h | h) | h
  · exact .inl (.inl (.inl h))
  · exact .inl (.inl (.inr h))
  · exact .inr h

theorem check_eq_ok_iff {name : String} {role : NameRole} :
    check name role = .ok () ↔ isWellFormed name = true ∧ name ≠ reserved := by
  unfold check
  split
  · simp_all
  · split <;> simp_all

/-- A letter with word characters behind it is a name or the reserved word. -/
theorem written_of_chars {name : String} {c : Char} {rest : List Char}
    (hname : name.toList = c :: rest) (hc : isLetter c = true)
    (hrest : ∀ d ∈ rest, isWordChar d = true) : Written name := by
  have hfirst : isFirstChar c = true := by
    simp [isFirstChar, isNameChar, hc, isDigit_of_isLetter hc]
  have hdrop : dropLastBreak rest ⊆ rest := by
    unfold dropLastBreak
    split
    · exact List.dropLast_subset rest
    · exact List.Subset.refl rest
  have hall : (dropLastBreak rest).all isNameChar = true :=
    List.all_eq_true.2 fun d hd => isNameChar_of_isWordChar (hrest d (hdrop hd))
  have hformed : isWellFormed name = true := by
    unfold isWellFormed
    rw [hname]
    simp [hfirst, hall]
  by_cases h : name = reserved
  · exact .inr h
  · exact .inl (check_eq_ok_iff.2 ⟨hformed, h⟩)

end Name

namespace Token

open Text

variable {m : Marks} {column : Nat} {cs : List Char} {ts : List Token}

/-- Only a letter starts a word. -/
theorem split_word {c : Char} {rest : List Char} (h : (split m c rest).1 = .word) :
    isLetter c = true ∧ (split m c rest).2.1 = c :: (takeRun isWordChar rest).1 := by
  unfold split at h ⊢
  split at h
  · cases h
  · rename_i hs
    split at h
    · rename_i hl
      simp [hs, hl]
    · split at h
      · cases h
      · split at h
        · cases h
        · rename_i hone
          split at h
          · exact absurd h (single?_kind hone).1
          · split at h
            · rename_i htwo
              exact absurd h (double?_kind htwo).1
            · exact absurd h (single?_kind hone).1

/-- **The words of a text** are names or the reserved word. -/
theorem Scans.written (h : Scans m column cs ts) :
    ∀ t ∈ ts, t.kind = .word → Name.Written t.content := by
  induction h with
  | stop _ =>
    intro t ht hk
    obtain rfl := List.mem_singleton.1 ht
    cases hk
  | token _ _ _ ih =>
    intro t ht hk
    rcases List.mem_cons.1 ht with rfl | ht
    · obtain ⟨hl, hword⟩ := split_word hk
      exact Name.written_of_chars (by rw [String.toList_ofList, hword]) hl takeRun_forall
    · exact ih t ht hk

end Token

namespace Expr

open Token

variable {src : Source} {d : Nat} {g : Phrase} {ts rest : List Token} {e : Expr} {m : Marks}

/-! ### Names and assignments -/

mutual

/-- The nodes below a node of an expression are nodes of it. -/
theorem walk_subset {e b : Expr} (h : b ∈ e.walk) : b.walk ⊆ e.walk := by
  match e with
  | .scalar _ | .name _ | .unit _ =>
    obtain rfl := List.mem_singleton.1 h
    exact List.Subset.refl _
  | .unary _ a _ =>
    rw [walk, List.mem_cons] at h
    rcases h with rfl | h
    · exact List.Subset.refl _
    · have ha := walk_subset h
      exact fun n hn => by simp [walk, ha hn]
  | .binary _ x y _ =>
    rw [walk, List.mem_cons, List.mem_append] at h
    rcases h with rfl | h | h
    · exact List.Subset.refl _
    · have hx := walk_subset h
      exact fun n hn => by simp [walk, hx hn]
    · have hy := walk_subset h
      exact fun n hn => by simp [walk, hy hn]
  | .conditional x y z _ =>
    rw [walk, List.mem_cons, List.mem_append, List.mem_append] at h
    rcases h with rfl | h | h | h
    · exact List.Subset.refl _
    · have hx := walk_subset h
      exact fun n hn => by simp [walk, hx hn]
    · have hy := walk_subset h
      exact fun n hn => by simp [walk, hy hn]
    · have hz := walk_subset h
      exact fun n hn => by simp [walk, hz hn]
  | .call _ as _ =>
    rw [walk, List.mem_cons] at h
    rcases h with rfl | h
    · exact List.Subset.refl _
    · have has := walkAll_subset h
      exact fun n hn => by simp [walk, has hn]

theorem walkAll_subset {es : List Expr} {b : Expr} (h : b ∈ walkAll es) :
    b.walk ⊆ walkAll es := by
  match es with
  | a :: as =>
    rw [walkAll, List.mem_append] at h
    rcases h with h | h
    · exact List.Subset.trans (walk_subset h) (List.subset_append_left ..)
    · exact List.Subset.trans (walkAll_subset h) (List.subset_append_right ..)

end

/-- The name that a node brings: of a variable, a unit or a function. -/
def name? : Expr → Option String
  | name n | unit n | call n _ _ => some n
  | _ => none

/-- The names in an expression. -/
def names (e : Expr) : List String := e.walk.filterMap name?

theorem mem_names_iff {x : String} : x ∈ e.names ↔ ∃ a ∈ e.walk, a.name? = some x :=
  List.mem_filterMap

/-- The names below a node are names of the whole. -/
theorem names_subset {a : Expr} (h : a ∈ e.walk) : a.names ⊆ e.names := by
  intro x hx
  obtain ⟨b, hb, hname⟩ := mem_names_iff.1 hx
  exact mem_names_iff.2 ⟨b, walk_subset h hb, hname⟩

/-- The name of a node is read from a word. -/
theorem Reads.word_of_name {x : String} (h : Reads src d g ts e rest) (he : e.name? = some x) :
    ∃ t ∈ ts, t.kind = .word ∧ t.content = x := by
  induction h with
  | plainCondition _ _ ih | plainOperation _ _ ih | whole _ _ ih | first _ ih
  | unsigned _ _ ih | noExponent _ _ _ ih | noFactorial _ ih | bareNumber _ ih
  | numberWithUnits _ ih | factorUnit _ _ _ _ ih | nextUnit _ _ _ ih | call _ _ ih
  | nextArgument _ _ _ ih _ => exact ih he
  | nextLevel _ _ ih | nextQuotient _ _ ih | nextFactor _ _ ih | paren _ _ _ ih
  | factorParen _ _ _ ih =>
    obtain ⟨t, ht, hword⟩ := ih he
    exact ⟨t, List.mem_cons_of_mem _ ht, hword⟩
  | factorName hk _ _ | name hk _ _ | unit hk _ _ | emptyCall hk _ _ | firstArgument hk _ _ _ =>
    cases he
    exact ⟨_, List.mem_cons_self .., hk, rfl⟩
  | _ => cases he

/-- **The names of an expression that is read** are among the words of its text. -/
theorem names_subset_words {isUnit : String → Bool} {text : String}
    (h : read m isUnit text = .ok e) : e.names ⊆ words m text := by
  intro x hx
  obtain ⟨a, ha, hname⟩ := mem_names_iff.1 hx
  obtain ⟨k, rest, -, hr, -⟩ := ofTokens_eq_ok_iff.1 h
  cases hr.origin trivial _ ha with
  | leaf hl hts _ =>
    have hmem := hts.subset (List.mem_cons_self ..)
    rcases hl with ⟨-, rfl⟩ | ⟨hk, -, rfl⟩ | ⟨hk, -, rfl⟩ <;> cases hname
    · exact mem_words hmem hk
    · exact mem_words hmem hk
  | phrase hread _ _ hts _ =>
    obtain ⟨t, ht, hk, rfl⟩ := hread.word_of_name hname
    exact mem_words (hts.subset ht) hk

/-- **An assignment that is read** has a word for its target. -/
theorem assigns_written {isUnit : String → Bool} {text n : String}
    (h : read m isUnit text = .ok e) (hn : e.Assigns n) : Name.Written n := by
  obtain ⟨b, c, hb⟩ := hn
  have hname : Expr.name n ∈ e.walk :=
    walk_subset hb (by simp [walk])
  obtain ⟨k, rest, -, hr, -⟩ := ofTokens_eq_ok_iff.1 h
  have hwords : ∀ t ∈ scan m text, t.kind = .word → Name.Written t.content :=
    (scan_eq_iff.1 rfl).written
  cases hr.origin trivial _ hname with
  | leaf hl hts _ =>
    rcases hl with ⟨-, h⟩ | ⟨-, -, h⟩ | ⟨hk, -, h⟩
    · cases h
    · cases h
    · cases h
      exact hwords _ (hts.subset (List.mem_cons_self ..)) hk
  | phrase hread _ _ hts _ =>
    obtain ⟨t, ht, hk, rfl⟩ := hread.word_of_name rfl
    exact hwords t (hts.subset ht) hk

end Expr
end QuantityCalculus
