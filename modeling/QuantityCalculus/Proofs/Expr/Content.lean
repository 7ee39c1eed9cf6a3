/-
# Contents come from the text

Whatever the marks, a token has its content from the text, and so does an expression that is
read. So a text without blanks at its ends is not longer than what it stands for.

**Main statement.** `isInfix_content`: the content of what is read is a part of the text.
-/

import QuantityCalculus.Proofs.Expr.Readers
import QuantityCalculus.Proofs.Expr.Scan
import QuantityCalculus.Proofs.Text.Blank

namespace QuantityCalculus
namespace Expr

open Token

variable {src : Source} {d : Nat} {g : Phrase} {ts rest : List Token} {e : Expr} {m : Marks}
  {column : Nat} {cs : List Char}

/-- A token has its content from the characters that are scanned. -/
theorem isInfix_of_scans (h : Scans m column cs ts) : ∀ t ∈ ts, t.content.toList <:+: cs := by
  induction h with
  | stop _ =>
    intro t ht
    obtain rfl := List.mem_singleton.1 ht
    exact List.nil_infix
  | @token column gap c rest ts _ _ _ ih =>
    have hsplit : (split m c rest).2.1 ++ (split m c rest).2.2 = c :: rest := split_append m c rest
    have hbehind : c :: rest <:+: gap ++ c :: rest := (List.suffix_append gap _).isInfix
    intro t ht
    rcases List.mem_cons.1 ht with rfl | ht
    · rw [String.toList_ofList]
      have hword : (split m c rest).2.1 <:+: c :: rest :=
        hsplit ▸ (List.prefix_append (split m c rest).2.1 _).isInfix
      exact hword.trans hbehind
    · have hafter : (split m c rest).2.2 <:+: c :: rest :=
        hsplit ▸ (List.suffix_append _ (split m c rest).2.2).isInfix
      exact ((ih t ht).trans hafter).trans hbehind

theorem isInfix_slice (cs : List Char) (start stop : Nat) :
    (slice cs start stop).toList <:+: cs := by
  rw [slice, String.toList_ofList]
  have hcut : (cs.take stop).drop start <:+: cs :=
    (List.drop_suffix start _).isInfix.trans (List.take_prefix stop cs).isInfix
  exact (Text.isPrefix_trimEnd _).isInfix.trans hcut

/-- **What is read has its content from the text,** if the tokens have theirs. -/
theorem Reads.isInfix_content (h : Reads src d g ts e rest)
    (hts : ∀ t ∈ ts, t.content.toList <:+: src.text) : e.content.toList <:+: src.text := by
  induction h with
  | plainCondition _ _ ih | plainOperation _ _ ih | whole _ _ ih | first _ ih
  | unsigned _ _ ih | noExponent _ _ _ ih | noFactorial _ ih | bareNumber _ ih
  | numberWithUnits _ ih | factorUnit _ _ _ _ ih | nextUnit _ _ _ ih => exact ih hts
  | nextLevel _ _ ih | nextQuotient _ _ ih | nextFactor _ _ ih | paren _ _ _ ih
  | factorParen _ _ _ ih => exact ih fun t ht => hts t (List.mem_cons_of_mem _ ht)
  | assign _ _ _ _ _ | conditional _ _ _ _ _ _ _ _ | more _ _ _ _ | sign _ _ _
  | exponent _ _ _ _ _ | factorial _ _ _ | emptyCall _ _ _ | call _ _ _ =>
    exact isInfix_slice src.text _ _
  | factorName _ _ _ | scalar _ | unit _ _ _ | name _ _ _ => exact hts _ (List.mem_cons_self ..)
  | firstArgument _ _ _ _ | nextArgument _ _ _ _ _ => exact List.nil_infix

/-- **The content of what is read is a part of the text.** -/
theorem isInfix_content {isUnit : String → Bool} {text : String}
    (h : read m isUnit text = .ok e) : e.content.toList <:+: text.toList := by
  obtain ⟨k, rest, -, hr, -⟩ := ofTokens_eq_ok_iff.1 h
  exact hr.isInfix_content (isInfix_of_scans (scan_eq_iff.1 rfl))

/-- A text that is the content of what its trimmed form stands for is trimmed. -/
theorem trimmed_of_content {isUnit : String → Bool}
    (h : read m isUnit (Text.trimmed e.content) = .ok e) :
    Text.trimmed e.content = e.content := by
  have hcontent := isInfix_content h
  rw [Text.trimmed, String.toList_ofList] at hcontent
  have htrim : Text.trim e.content.toList <:+: e.content.toList := Text.isInfix_trim _
  have heq : Text.trim e.content.toList = e.content.toList :=
    htrim.eq_of_length (Nat.le_antisymm htrim.length_le hcontent.length_le)
  rw [Text.trimmed, heq, String.ofList_toList]

end Expr
end QuantityCalculus
