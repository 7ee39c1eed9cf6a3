/-
# Numbers that are read

A number of an expression is cut off the text where its digits, its fraction and its exponent end,
so it is a numeral with the decimal mark of the text; an exponent that has no digits is not taken.
A scalar in an expression that was read is such a number, and it has a value wherever its mark, or
the point, is the decimal mark that was agreed on.

The other way round, a numeral is cut off whole: a text that is one is read as one scalar.

**Main statements.** `numeral_of_read`: the scalars in what is read; `legible_of_read`: their
values; `read_of_numeral` and `read_minus_of_numeral`: texts that are one number.
-/

import QuantityCalculus.Expr.Value
import QuantityCalculus.Proofs.Expr.Names
import QuantityCalculus.Proofs.Number.Numeral

namespace QuantityCalculus
namespace Token

open Text Number

variable {m : Marks} {column : Nat} {mark : Char} {cs : List Char} {ts : List Token}

theorem areDigits_takeRun (cs : List Char) : AreDigits (takeRun isDigit cs).1 := takeRun_forall

theorem fractionPart_takeFraction (hm : m.decimal = some mark) (cs : List Char) :
    FractionPart mark (takeFraction m cs).1 := by
  cases cs with
  | nil => exact .absent
  | cons c cs =>
    simp only [takeFraction]
    split
    · rename_i hc
      obtain rfl := Option.some.inj (hm.symm.trans hc)
      exact .present (areDigits_takeRun cs)
    · exact .absent

theorem areDigits_cons {d : Char} {ds : List Char} (hd : isDigit d = true) (hds : AreDigits ds) :
    AreDigits (d :: ds) :=
  List.forall_mem_cons.2 ⟨hd, hds⟩

theorem exponentPart_takeExponent (cs : List Char) : ExponentPart (takeExponent cs).1 := by
  rcases takeExponent_cases cs with
    ⟨c, s, d, rest, rfl, hc, hs, hd⟩ | ⟨c, d, rest, rfl, hc, hd⟩ | hnone
  · rw [takeExponent_signed hc hs hd]
    exact .signed hc hs (areDigits_cons hd (areDigits_takeRun rest))
  · rw [takeExponent_unsigned hc hd]
    exact .unsigned hc (areDigits_cons hd (areDigits_takeRun rest))
  · rw [hnone]
    exact .absent

/-- **What is cut off as a number** is a numeral. -/
theorem numeral_takeNumber (hm : m.decimal = some mark) {c : Char} {rest : List Char}
    (hc : isDigit c = true) : Numeral mark (takeNumber m (c :: rest)).1 := by
  have hwhole : (takeRun isDigit (c :: rest)).1 = c :: (takeRun isDigit rest).1 := by
    simp [takeRun, hc]
  unfold takeNumber
  dsimp only
  rw [hwhole]
  exact .parts (areDigits_cons hc (areDigits_takeRun rest)) (fractionPart_takeFraction hm _)
    (exponentPart_takeExponent _)

/-- Only a digit starts a number. -/
theorem split_scalar {c : Char} {rest : List Char} (h : (split m c rest).1 = .scalar) :
    isDigit c = true ∧ (split m c rest).2 = takeNumber m (c :: rest) := by
  by_cases hs : m.separator = some c
  · rw [split_separator hs] at h
    cases h
  cases hl : isLetter c with
  | true =>
    rw [split_letter hs hl] at h
    cases h
  | false =>
    cases hd : isDigit c with
    | true => exact ⟨rfl, by rw [split_digit hs hl hd]⟩
    | false =>
      cases ho : single? c with
      | none =>
        rw [split_unknown hs hl hd ho] at h
        cases h
      | some k =>
        rcases split_operator rest hs hl hd ho with ⟨d, long, tail, rfl, htwo, heq⟩ | ⟨-, heq⟩
        · rw [heq] at h
          exact absurd h (double?_kind htwo).2
        · rw [heq] at h
          exact absurd h (single?_kind ho).2

/-- **The numbers of a text** are numerals. -/
theorem Scans.numerals (hm : m.decimal = some mark) (h : Scans m column cs ts) :
    ∀ t ∈ ts, t.kind = .scalar → Numeral mark t.content.toList := by
  induction h with
  | stop _ =>
    intro t ht hk
    obtain rfl := List.mem_singleton.1 ht
    cases hk
  | token _ _ _ ih =>
    intro t ht hk
    rcases List.mem_cons.1 ht with rfl | ht
    · obtain ⟨hc, hnumber⟩ := split_scalar hk
      dsimp only
      rw [String.toList_ofList, hnumber]
      exact numeral_takeNumber hm hc
    · exact ih t ht hk

/-! ### Numerals that are cut off whole -/

theorem takeFraction_of_fractionPart (hm : m.decimal = some mark) (hmark : IsMark mark)
    {fraction exponent : List Char} (h : FractionPart mark fraction) (hx : ExponentPart exponent) :
    takeFraction m (fraction ++ exponent) = (fraction, exponent) := by
  cases h with
  | absent =>
    cases exponent with
    | nil => rfl
    | cons c exponent =>
      have hne : mark ≠ c := by
        rintro rfl
        have hletter := hmark.letter
        rcases hx.head mark rfl with rfl | rfl
        · exact absurd hletter (by decide +kernel)
        · exact absurd hletter (by decide +kernel)
      simp [takeFraction, hm, hne]
  | present hds =>
    have hrest : ∀ c ∈ exponent.head?, isDigit c = false :=
      fun c hc => isDigit_of_exponentLetter (hx.head c hc)
    simp [takeFraction, hm, takeRun_append_of_head _ hrest, takeRun_of_forall hds]

theorem takeExponent_of_exponentPart (h : ExponentPart cs) : takeExponent cs = (cs, []) := by
  cases h with
  | absent => rfl
  | unsigned he hds => rw [takeExponent_unsigned he hds.head, takeRun_of_forall hds.tail]
  | signed he hs hds => rw [takeExponent_signed he hs hds.head, takeRun_of_forall hds.tail]

/-- **A numeral is cut off whole.** -/
theorem takeNumber_of_numeral (hm : m.decimal = some mark) (hmark : IsMark mark)
    (h : Numeral mark cs) : takeNumber m cs = (cs, []) := by
  obtain @⟨c, whole, fraction, exponent, hwhole, hfraction, hexponent⟩ := h
  have hrest : ∀ d ∈ (fraction ++ exponent).head?, isDigit d = false := by
    intro d hd
    cases hfraction with
    | absent => exact isDigit_of_exponentLetter (hexponent.head d hd)
    | present _ =>
      cases hd
      exact hmark.digit
  rw [← List.cons_append]
  simp only [takeNumber, takeRun_append_of_head _ hrest, takeRun_of_forall hwhole, List.nil_append,
    takeFraction_of_fractionPart hm hmark hfraction hexponent,
    takeExponent_of_exponentPart hexponent]

/-- A numeral at the end of a text is a single token. -/
theorem scans_of_numeral (h : Numeral '.' cs) (column : Nat) :
    Scans .standard column cs [⟨.scalar, String.ofList cs, column, false⟩,
      ⟨.endOfLine, "", column + cs.length, false⟩] := by
  have hnumber : takeNumber .standard cs = (cs, []) := takeNumber_of_numeral rfl isMark_point h
  obtain @⟨c, whole, fraction, exponent, hwhole, -, -⟩ := h
  have hc := hwhole.head
  have hsep : Marks.standard.separator ≠ some c := by
    rintro heq
    cases heq
    exact absurd hc (by decide +kernel)
  have hletter : isLetter c = false := by
    refine Bool.eq_false_iff.2 fun hl => ?_
    rw [isDigit_of_isLetter hl] at hc
    cases hc
  have hgap : isGap c = false := by
    refine Bool.eq_false_iff.2 fun hg => ?_
    have hblank := isBlank_of_isDigit hc
    rw [isBlank_of_isGap hg] at hblank
    cases hblank
  have hnil : IsGap [] := by simp [IsGap]
  have hsplit : split .standard c (whole ++ (fraction ++ exponent)) =
      (.scalar, c :: (whole ++ (fraction ++ exponent)), []) := by
    rw [split_digit hsep hletter hc, hnumber]
  have hscans : Scans .standard column (c :: (whole ++ (fraction ++ exponent))) _ :=
    Scans.token_of_split hnil hgap hsplit (.stop hnil)
  simpa using hscans

theorem scan_of_numeral {text : String} (h : Numeral '.' text.toList) :
    scan .standard text = [⟨.scalar, text, 0, false⟩,
      ⟨.endOfLine, "", text.toList.length, false⟩] := by
  simpa using scan_eq_iff.2 (scans_of_numeral h 0)

/-- A minus sign in front of a numeral is another token. -/
theorem scan_minus_of_numeral {text : String} (h : Numeral '.' text.toList) :
    scan .standard ("-" ++ text) = [⟨.minus, "-", 0, false⟩, ⟨.scalar, text, 1, false⟩,
      ⟨.endOfLine, "", 1 + text.toList.length, false⟩] := by
  have hnil : IsGap [] := by simp [IsGap]
  have hsign : split .standard '-' text.toList = (.minus, ['-'], text.toList) :=
    split_short (by decide) (by decide) (by decide) rfl fun d _ => by simp [double?]
  have hscans : Scans .standard 0 ('-' :: text.toList) _ :=
    Scans.token_of_split hnil rfl hsign (scans_of_numeral h 1)
  rw [scan_eq_iff, String.toList_append]
  simpa using hscans

end Token

namespace Expr

open Number Text Token

variable {src : Source} {d : Nat} {g : Phrase} {ts rest : List Token} {e : Expr} {m : Marks}

/-- A number in front of the end is read as a scalar. -/
theorem reads_number (t last : Token) (ht : t.kind = .scalar) (hend : last.kind = .endOfLine) :
    Reads src d (.operand true) [t, last] (.scalar t.content) [last] :=
  .numberWithUnits (.whole (.first (.scalar ht)) (Row.stops_of_end _ hend))

/-- **A numeral is read as a number** that is all of the text. -/
theorem read_of_numeral {text : String} (h : Numeral '.' text.toList) (isUnit : String → Bool) :
    read .standard isUnit text = .ok (.scalar text) := by
  have hread : Reads ⟨text.toList, isUnit⟩ 249 (.operand true) _ (.scalar text) _ :=
    reads_number ⟨.scalar, text, 0, false⟩ ⟨.endOfLine, "", text.toList.length, false⟩ rfl rfl
  rw [read, readWithin, scan_of_numeral h]
  exact ofTokens_eq_ok_iff.2 ⟨249, _, rfl, hread.toAssignment trivial rfl, rfl⟩

/-- **With a minus sign in front of it, it is read as its negative,** and nothing is left out. -/
theorem read_minus_of_numeral {text : String} (h : Numeral '.' text.toList)
    (isUnit : String → Bool) :
    read .standard isUnit ("-" ++ text) =
      .ok (.unary .minus (.scalar text) ("-" ++ text)) := by
  have htext : ("-" ++ text).toList = '-' :: text.toList := by rw [String.toList_append]; rfl
  have hink : EndsInInk ("-" ++ text).toList := by
    refine endsInInk_of_forall fun c hc => ?_
    rw [htext] at hc
    rcases List.mem_cons.1 hc with rfl | hc
    · decide
    · exact h.isBlank c hc
  have hcontent : Source.upTo ⟨("-" ++ text).toList, isUnit⟩ 0
      [⟨.endOfLine, "", 1 + text.toList.length, false⟩] = "-" ++ text := by
    have hlength : ("-" ++ text).toList.length = 1 + text.toList.length := by
      rw [htext, List.length_cons, Nat.add_comm]
    rw [Source.upTo, columnOf_cons, slice, List.drop_zero, ← hlength, List.take_length,
      hink.trimEnd, String.ofList_toList]
  have hnumber : Reads ⟨("-" ++ text).toList, isUnit⟩ 248 (.operand true) _ (.scalar text) _ :=
    reads_number ⟨.scalar, text, 1, false⟩ ⟨.endOfLine, "", 1 + text.toList.length, false⟩ rfl rfl
  have hsigned := Reads.sign (t := ⟨.minus, "-", 0, false⟩) rfl
    (.unsigned rfl (.noExponent (.noFactorial hnumber) (by simp) (by simp)))
  rw [hcontent] at hsigned
  rw [read, readWithin, scan_minus_of_numeral h]
  exact ofTokens_eq_ok_iff.2 ⟨249, _, rfl, hsigned.toAssignment trivial rfl, rfl⟩

/-- A scalar is read from a number. -/
theorem Reads.token_of_scalar {x : String} (h : Reads src d g ts e rest) (he : e = .scalar x) :
    ∃ t ∈ ts, t.kind = .scalar ∧ t.content = x := by
  induction h with
  | plainCondition _ _ ih | plainOperation _ _ ih | whole _ _ ih | first _ ih
  | unsigned _ _ ih | noExponent _ _ _ ih | noFactorial _ ih | bareNumber _ ih
  | numberWithUnits _ ih | factorUnit _ _ _ _ ih | nextUnit _ _ _ ih => exact ih he
  | nextLevel _ _ ih | nextQuotient _ _ ih | nextFactor _ _ ih | paren _ _ _ ih
  | factorParen _ _ _ ih =>
    obtain ⟨t, ht, hnumber⟩ := ih he
    exact ⟨t, List.mem_cons_of_mem _ ht, hnumber⟩
  | scalar hk =>
    cases he
    exact ⟨_, List.mem_cons_self .., hk, rfl⟩
  | _ => cases he

/-- **The scalars of an expression that is read** are numerals with its decimal mark. -/
theorem numeral_of_read {mark : Char} {isUnit : String → Bool} {text x : String}
    (hm : m.decimal = some mark) (h : read m isUnit text = .ok e) (hx : .scalar x ∈ e.walk) :
    Numeral mark x.toList := by
  have hnumerals : ∀ t ∈ scan m text, t.kind = .scalar → Numeral mark t.content.toList :=
    (scan_eq_iff.1 rfl).numerals hm
  obtain ⟨k, rest, -, hr, -⟩ := ofTokens_eq_ok_iff.1 h
  cases hr.origin trivial _ hx with
  | leaf hl hts _ =>
    rcases hl with ⟨hk, h⟩ | ⟨-, -, h⟩ | ⟨-, -, h⟩ <;> cases h
    exact hnumerals _ (hts.subset (List.mem_cons_self ..)) hk
  | phrase hread _ _ hts _ =>
    obtain ⟨t, ht, hk, rfl⟩ := hread.token_of_scalar rfl
    exact hnumerals t (hts.subset ht) hk

/-- All numbers in an expression have values under a decimal mark, each of them the same real number
among scalars of every kind. -/
def Legible (mark : Char) (e : Expr) : Prop :=
  ∀ x, .scalar x ∈ e.walk → ∃ y : Float, ∀ {α : Type} [Scalar α],
    (Scalar.ofLiteral x (String.singleton mark) : Except Invalid α) = .ok (Scalar.ofReal y)

theorem Legible.of_subset {mark : Char} {a : Expr} (h : e.Legible mark) (hs : a.walk ⊆ e.walk) :
    a.Legible mark :=
  fun x hx => h x (hs hx)

/-- **Every number that is read has a value,** also where the point is the mark that it was read
with. -/
theorem legible_of_read {mark : Char} (hmark : IsMark mark) {isUnit : String → Bool}
    {text : String} (hm : m.decimal = some mark ∨ m.decimal = some '.')
    (h : read m isUnit text = .ok e) : e.Legible mark := by
  intro x hx
  rcases hm with hm | hm
  · exact (numeral_of_read hm h hx).exists_ofLiteral hmark (.inl rfl)
  · exact (numeral_of_read hm h hx).exists_ofLiteral hmark (.inr rfl)

end Expr
end QuantityCalculus
