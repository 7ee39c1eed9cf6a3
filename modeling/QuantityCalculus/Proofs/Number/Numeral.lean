/-
# Numerals

A numeral is a run of digits with an optional fraction behind a decimal mark and an optional
exponent. The fraction may be a lone mark, but an exponent has at least one digit. A mark that is
no letter, no digit and no sign cannot be confused with another character of a numeral, so the
point can take its place everywhere, and the point alone is what the grammar of doubles knows.

**Main statements.** `Numeral.read?_eq` and `Numeral.exists_read?`: how a numeral with a point is
read, and that it has a value; `Numeral.exists_ofLiteral`: so has one with another mark, or with the
point where another mark was agreed on.
-/

import QuantityCalculus.Proofs.Text.Blank
import QuantityCalculus.Scalar.Basic

namespace QuantityCalculus
namespace Number

open Text

/-! ### Numerals and their parts -/

/-- Digits of any script. -/
def AreDigits (cs : List Char) : Prop := ∀ c ∈ cs, isDigit c = true

/-- A decimal mark and any digits behind it, or nothing. -/
inductive FractionPart (mark : Char) : List Char → Prop
  | absent : FractionPart mark []
  | present {ds : List Char} : AreDigits ds → FractionPart mark (mark :: ds)

/-- The letter `e`, an optional sign and at least one digit, or nothing. -/
inductive ExponentPart : List Char → Prop
  | absent : ExponentPart []
  | unsigned {e d : Char} {ds : List Char} : e = 'e' ∨ e = 'E' → AreDigits (d :: ds) →
    ExponentPart (e :: d :: ds)
  | signed {e s d : Char} {ds : List Char} : e = 'e' ∨ e = 'E' → s = '+' ∨ s = '-' →
    AreDigits (d :: ds) → ExponentPart (e :: s :: d :: ds)

/-- Digits, then a fraction and an exponent if they are there. -/
inductive Numeral (mark : Char) : List Char → Prop
  | parts {c : Char} {whole fraction exponent : List Char} : AreDigits (c :: whole) →
    FractionPart mark fraction → ExponentPart exponent →
    Numeral mark (c :: (whole ++ (fraction ++ exponent)))

/-- A character that can be no part of a numeral but its decimal mark. -/
structure IsMark (c : Char) : Prop where
  letter : isLetter c = false
  digit : isDigit c = false
  plus : c ≠ '+'
  minus : c ≠ '-'

/-- An ASCII digit is found by its value. -/
theorem ofNat_of_isDigit {c : Char} (h : c.isDigit = true) :
    c.toNat - 48 < 10 ∧ Char.ofNat (48 + (c.toNat - 48)) = c := by
  obtain ⟨hlow, hhigh⟩ := Char.isDigit_iff_toNat.1 h
  have hlow : 48 ≤ c.toNat := hlow
  have hhigh : c.toNat ≤ 57 := hhigh
  exact ⟨by omega, by rw [Nat.add_sub_cancel' hlow, Char.ofNat_toNat]⟩

/-- An ASCII digit has its value. -/
theorem digitValue?_of_isDigit {c : Char} (h : c.isDigit = true) :
    digitValue? c = some (c.toNat - 48) := by
  obtain ⟨hlow, hhigh⟩ := Char.isDigit_iff_toNat.1 h
  have hrange : 0x30 ≤ c.toNat ∧ c.toNat < 0x30 + 10 := ⟨hlow, Nat.lt_succ_of_le hhigh⟩
  rw [digitValue?, zeroDigits, List.find?_cons_of_pos (by simpa using hrange)]
  rfl

theorem isMark_point : IsMark '.' := ⟨by decide +kernel, by decide +kernel, by decide, by decide⟩

theorem isMark_comma : IsMark ',' := ⟨by decide +kernel, by decide +kernel, by decide, by decide⟩

theorem AreDigits.head {c : Char} {cs : List Char} (h : AreDigits (c :: cs)) : isDigit c = true :=
  h c (List.mem_cons_self ..)

theorem AreDigits.tail {c : Char} {cs : List Char} (h : AreDigits (c :: cs)) : AreDigits cs :=
  fun d hd => h d (List.mem_cons_of_mem c hd)

/-- What is no digit and stands in a numeral is its mark, the letter of an exponent or a sign. -/
theorem Numeral.mem {mark c : Char} {cs : List Char} (h : Numeral mark cs) (hc : c ∈ cs) :
    isDigit c = true ∨ c = mark ∨ c ∈ ['e', 'E', '+', '-'] := by
  obtain ⟨hwhole, hfraction, hexponent⟩ := h
  simp only [List.mem_cons, List.mem_append, List.not_mem_nil, or_false] at hc ⊢
  rcases hc with rfl | hc | hc | hc
  · exact .inl hwhole.head
  · exact .inl (hwhole.tail c hc)
  · cases hfraction with
    | absent => cases hc
    | present hds =>
      rcases List.mem_cons.1 hc with rfl | hc
      · exact .inr (.inl rfl)
      · exact .inl (hds c hc)
  · cases hexponent with
    | absent => cases hc
    | unsigned he hds =>
      rcases List.mem_cons.1 hc with rfl | hc
      · exact .inr (.inr (he.imp_right .inl))
      · exact .inl (hds c hc)
    | signed he hs hds =>
      rcases List.mem_cons.1 hc with rfl | hc
      · exact .inr (.inr (he.imp_right .inl))
      rcases List.mem_cons.1 hc with rfl | hc
      · exact .inr (.inr (.inr (.inr hs)))
      · exact .inl (hds c hc)

/-! ### Reading a numeral with a point -/

/-- All digits are taken, and what follows them is left. -/
theorem takeDigits_append {ds rest : List Char} (hds : AreDigits ds)
    (hrest : ∀ c ∈ rest.head?, isDigit c = false) :
    takeDigits (ds ++ rest) = (ds.filterMap digitValue?, rest) := by
  induction ds with
  | nil =>
    cases rest with
    | nil => rfl
    | cons c rest =>
      have hc : digitValue? c = none := by simpa [isDigit] using hrest c rfl
      simp [takeDigits, hc]
  | cons d ds ih =>
    obtain ⟨v, hv⟩ := Option.isSome_iff_exists.1 hds.head
    simp [takeDigits, hv, ih hds.tail]

theorem takeDigits_of_areDigits {ds : List Char} (hds : AreDigits ds) :
    takeDigits ds = (ds.filterMap digitValue?, []) := by
  have hnone : ∀ c ∈ ([] : List Char).head?, isDigit c = false := fun c hc => by cases hc
  simpa only [List.append_nil] using takeDigits_append hds hnone

/-- The first of some digits has a value. -/
theorem AreDigits.filterMap_cons {d : Char} {ds : List Char} (h : AreDigits (d :: ds)) :
    ∃ v, (d :: ds).filterMap digitValue? = v :: ds.filterMap digitValue? := by
  obtain ⟨v, hv⟩ := Option.isSome_iff_exists.1 h.head
  exact ⟨v, List.filterMap_cons_some hv⟩

theorem ExponentPart.head {cs : List Char} (h : ExponentPart cs) :
    ∀ c ∈ cs.head?, c = 'e' ∨ c = 'E' := by
  intro c hc
  cases h with
  | absent => cases hc
  | unsigned he _ | signed he _ _ =>
    cases hc
    exact he

theorem isDigit_of_exponentLetter {c : Char} (h : c = 'e' ∨ c = 'E') : isDigit c = false := by
  rcases h with rfl | rfl <;> decide +kernel

theorem takeSign_of_isDigit {c : Char} {cs : List Char} (h : isDigit c = true) :
    takeSign (c :: cs) = (false, c :: cs) := by
  have hplus : c ≠ '+' := by
    rintro rfl
    exact absurd h (by decide +kernel)
  have hminus : c ≠ '-' := by
    rintro rfl
    exact absurd h (by decide +kernel)
  simp [takeSign, hplus, hminus]

/-- **An exponent has a value.** -/
theorem ExponentPart.isSome_exponent? {cs : List Char} (h : ExponentPart cs) :
    (exponent? cs).isSome = true := by
  cases h with
  | absent => rfl
  | unsigned he hds =>
    obtain ⟨v, hv⟩ := hds.filterMap_cons
    simp [exponent?, he, takeSign_of_isDigit hds.head, takeDigits_of_areDigits hds, hv]
  | signed he hs hds =>
    obtain ⟨v, hv⟩ := hds.filterMap_cons
    rcases hs with rfl | rfl <;>
      simp [exponent?, he, takeSign, takeDigits_of_areDigits hds, hv]

/-- The fraction is taken, and the exponent is left. -/
theorem FractionPart.takeFraction_append {fraction exponent : List Char}
    (h : FractionPart '.' fraction) (hx : ExponentPart exponent) :
    takeFraction (fraction ++ exponent) = (fraction.tail.filterMap digitValue?, exponent) := by
  cases h with
  | absent =>
    rw [List.nil_append]
    cases hx with
    | absent => rfl
    | unsigned he _ | signed he _ _ => rcases he with rfl | rfl <;> rfl
  | present hds =>
    exact takeDigits_append hds fun c hc => isDigit_of_exponentLetter (hx.head c hc)

/-- **What a numeral is read as:** the digits of both its parts and the exponent that it has, less
the number of digits behind the point. -/
theorem unsigned?_parts {c : Char} {whole fraction exponent : List Char}
    (hwhole : AreDigits (c :: whole)) (hfraction : FractionPart '.' fraction)
    (hexponent : ExponentPart exponent) (negative : Bool) :
    unsigned? negative (c :: (whole ++ (fraction ++ exponent))) =
      (exponent? exponent).map fun e => ofDecimal negative
        (digitsValue ((c :: whole).filterMap digitValue? ++ fraction.tail.filterMap digitValue?))
        (e - (fraction.tail.filterMap digitValue?).length) := by
  have hrest : ∀ d ∈ (fraction ++ exponent).head?, isDigit d = false := by
    intro d hd
    cases hfraction with
    | absent => exact isDigit_of_exponentLetter (hexponent.head d hd)
    | present _ =>
      cases hd
      exact isMark_point.digit
  have htake := takeDigits_append hwhole hrest
  obtain ⟨v, hv⟩ := hwhole.filterMap_cons
  rw [List.cons_append] at htake
  simp [unsigned?, htake, hfraction.takeFraction_append hexponent, hv]

/-- The decimal number of a numeral, apart from the words that a text is compared with first. -/
theorem Numeral.isSome_unsigned? {cs : List Char} (h : Numeral '.' cs) :
    (unsigned? false cs).isSome = true := by
  obtain ⟨hwhole, hfraction, hexponent⟩ := h
  rw [unsigned?_parts hwhole hfraction hexponent, Option.isSome_map]
  exact hexponent.isSome_exponent?

theorem dropUnderscores?_of_forall {cs : List Char} (h : ∀ c ∈ cs, c ≠ '_') (afterDigit : Bool) :
    dropUnderscores? afterDigit cs = some cs := by
  induction cs generalizing afterDigit with
  | nil => rfl
  | cons c cs ih =>
    have hc := h c (List.mem_cons_self ..)
    have hrest := ih (fun d hd => h d (List.mem_cons_of_mem c hd)) (isDigit c)
    unfold dropUnderscores?
    split
    · rename_i heq
      cases heq
    · rename_i heq
      cases heq
      exact absurd rfl hc
    · rename_i heq
      cases heq
      simp [hc, hrest]

theorem strip_of_forall {cs : List Char} (h : ∀ c ∈ cs, isBlank c = false) : strip cs = cs := by
  have hwhite : ∀ c ∈ cs, ¬ isWhiteSpace c = true := fun c hc => by simp [isWhiteSpace, h c hc]
  have hdrop {ds : List Char} (hds : ∀ c ∈ ds, ¬ isWhiteSpace c = true) :
      ds.dropWhile isWhiteSpace = ds := by
    cases ds with
    | nil => rfl
    | cons d ds => exact List.dropWhile_cons_of_neg (hds d (List.mem_cons_self ..))
  rw [strip, hdrop hwhite, hdrop fun c hc => hwhite c (List.mem_reverse.1 hc), List.reverse_reverse]

/-- No digit is a letter that has two cases. -/
theorem toLower_of_isDigit {c : Char} (h : isDigit c = true) : c.toLower = c := by
  refine dif_neg fun hc => ?_
  have key : ∀ n < 26, isDigit (Char.ofNat (65 + n)) = false := by decide +kernel
  have hlow : 65 ≤ c.toNat := hc.1
  have hhigh : c.toNat ≤ 90 := hc.2
  have hletter := key (c.toNat - 65) (by omega)
  rw [Nat.add_sub_cancel' hlow, Char.ofNat_toNat, h] at hletter
  cases hletter

/-- What starts with a digit is no word that starts with something else. -/
theorem isWord_of_isDigit (word : String) {c d : Char} {cs ds : List Char}
    (hword : word.toList = d :: ds) (hd : isDigit d = false) (hc : isDigit c = true) :
    isWord word (c :: cs) = false := by
  have hne : c ≠ d := by
    rintro rfl
    rw [hc] at hd
    cases hd
  simp [isWord, hword, toLower_of_isDigit hc, hne]

theorem Numeral.takeSign {mark : Char} {cs : List Char} (h : Numeral mark cs) :
    takeSign cs = (false, cs) := by
  obtain ⟨hwhole, -, -⟩ := h
  exact takeSign_of_isDigit hwhole.head

/-- A numeral has no blanks. -/
theorem Numeral.isBlank {cs : List Char} (h : Numeral '.' cs) :
    ∀ c ∈ cs, Text.isBlank c = false := by
  intro c hc
  rcases h.mem hc with hd | rfl | hc
  · exact isBlank_of_isDigit hd
  · decide
  · simp only [List.mem_cons, List.not_mem_nil, or_false] at hc
    rcases hc with rfl | rfl | rfl | rfl <;> decide

/-- **A numeral is read as an unsigned number.** -/
theorem Numeral.read?_eq {cs : List Char} (h : Numeral '.' cs) :
    read? cs = unsigned? false cs := by
  have hbare : ∀ c ∈ cs, c ≠ '_' := by
    rintro c hc rfl
    exact absurd (h.mem hc) (by decide +kernel)
  have hstrip := strip_of_forall h.isBlank
  have hsign := h.takeSign
  obtain ⟨hwhole, -, -⟩ := h
  have hi : isDigit 'i' = false := by decide +kernel
  have hn : isDigit 'n' = false := by decide +kernel
  simp only [read?, hstrip, dropUnderscores?_of_forall hbare, Option.bind_eq_bind,
    Option.bind_some, hsign,
    isWord_of_isDigit "inf" rfl hi hwhole.head,
    isWord_of_isDigit "infinity" rfl hi hwhole.head,
    isWord_of_isDigit "nan" rfl hn hwhole.head]
  rfl

/-- **A numeral with a point has a value.** -/
theorem Numeral.exists_read? {cs : List Char} (h : Numeral '.' cs) : ∃ x, read? cs = some x :=
  Option.isSome_iff_exists.1 (h.read?_eq ▸ h.isSome_unsigned?)

/-! ### The point in place of another mark -/

/-- A character as it is, but the point for the mark. -/
def pointFor (mark c : Char) : Char := if c = mark then '.' else c

theorem pointFor_of_ne {mark c : Char} (h : c ≠ mark) : pointFor mark c = c := if_neg h

theorem map_pointFor {mark : Char} {cs : List Char} (h : ∀ c ∈ cs, c ≠ mark) :
    cs.map (pointFor mark) = cs := by
  have hid : cs.map (pointFor mark) = cs.map id :=
    List.map_congr_left fun c hc => pointFor_of_ne (h c hc)
  rw [hid, List.map_id]

namespace IsMark

variable {mark : Char} {cs : List Char}

theorem map_digits (h : IsMark mark) (hcs : AreDigits cs) : cs.map (pointFor mark) = cs := by
  refine map_pointFor ?_
  rintro c hc rfl
  cases h.digit.symm.trans (hcs c hc)

/-- Neither the letter of an exponent nor its sign is a mark. -/
theorem map_exponent (h : IsMark mark) (hcs : ExponentPart cs) :
    cs.map (pointFor mark) = cs := by
  have hletter : ∀ {e}, e = 'e' ∨ e = 'E' → pointFor mark e = e := by
    intro e he
    refine pointFor_of_ne ?_
    rintro rfl
    rcases he with rfl | rfl
    · exact absurd h.letter (by decide +kernel)
    · exact absurd h.letter (by decide +kernel)
  cases hcs with
  | absent => rfl
  | unsigned he hds => rw [List.map_cons, hletter he, h.map_digits hds]
  | @signed e s d ds he hs hds =>
    have hsign : pointFor mark s = s := by
      refine pointFor_of_ne ?_
      rintro rfl
      exact hs.elim h.plus h.minus
    rw [List.map_cons, hletter he, List.map_cons, hsign, h.map_digits hds]

/-- **The point takes the place of the mark** in a numeral with this mark or with a point. -/
theorem numeral (h : IsMark mark) {mark' : Char} (hm : mark' = mark ∨ mark' = '.')
    (hcs : Numeral mark' cs) : Numeral '.' (cs.map (pointFor mark)) := by
  obtain @⟨c, whole, fraction, exponent, hwhole, hfraction, hexponent⟩ := hcs
  have hpoint : pointFor mark mark' = '.' := by
    rcases hm with rfl | rfl
    · exact if_pos rfl
    · exact ite_self _
  have hfraction : FractionPart '.' (fraction.map (pointFor mark)) := by
    cases hfraction with
    | absent => exact .absent
    | present hds =>
      rw [List.map_cons, hpoint, h.map_digits hds]
      exact .present hds
  have hall : (c :: (whole ++ (fraction ++ exponent))).map (pointFor mark) =
      c :: (whole ++ (fraction.map (pointFor mark) ++ exponent)) := by
    have hdigits := h.map_digits hwhole
    rw [List.map_cons, List.cons.injEq] at hdigits
    rw [List.map_cons, List.map_append, List.map_append, hdigits.1, hdigits.2,
      h.map_exponent hexponent]
  rw [hall]
  exact .parts hwhole hfraction hexponent

end IsMark
end Number

namespace Scalar

open Number

/-- A single character is replaced wherever it stands. -/
theorem replaceAll_singleton {mark : Char} {fuel : Nat} {cs : List Char} (h : cs.length < fuel) :
    replaceAll [mark] ['.'] fuel cs = cs.map (pointFor mark) := by
  induction cs generalizing fuel with
  | nil =>
    obtain ⟨fuel, rfl⟩ : ∃ k, fuel = k + 1 := ⟨fuel - 1, by omega⟩
    rfl
  | cons c cs ih =>
    rw [List.length_cons] at h
    obtain ⟨fuel, rfl⟩ : ∃ k, fuel = k + 1 := ⟨fuel - 1, by omega⟩
    have hlength : cs.length < fuel := by omega
    have hrest := ih hlength
    by_cases hc : c = mark
    · simp [replaceAll, pointFor, hc, hrest]
    · simp [replaceAll, pointFor, hc, Ne.symm hc, hrest]

/-- **A number is read with the point in place of its mark.** -/
theorem ofLiteral_eq {α : Type} [Scalar α] (text : String) (mark : Char) :
    (ofLiteral text (String.singleton mark) : Except Invalid α) =
      match read? (text.toList.map (pointFor mark)) with
      | some x => .ok (ofReal x)
      | none => .error (.scalarText text) := by
  have hplain : (if String.singleton mark = "." then text.toList else
      replaceAll (String.singleton mark).toList ['.'] (text.toList.length + 1) text.toList) =
        text.toList.map (pointFor mark) := by
    split
    · rename_i hpoint
      obtain rfl : mark = '.' := by simpa using congrArg String.toList hpoint
      have hid : text.toList.map (pointFor '.') = text.toList.map id :=
        List.map_congr_left fun c _ => by simp [pointFor, eq_comm]
      rw [hid, List.map_id]
    · rw [String.toList_singleton, replaceAll_singleton (Nat.lt_succ_self _)]
  cases hread : read? (text.toList.map (pointFor mark)) <;> simp only [ofLiteral, hplain, hread]

end Scalar

namespace Number

/-- **A numeral has a value** under an agreed mark if it is written with this mark or with a
point, and the value is the same real number among scalars of every kind. -/
theorem Numeral.exists_ofLiteral {mark mark' : Char} {text : String} (hmark : IsMark mark)
    (hm : mark' = mark ∨ mark' = '.') (h : Numeral mark' text.toList) :
    ∃ x : Float, ∀ {α : Type} [Scalar α],
      (Scalar.ofLiteral text (String.singleton mark) : Except Invalid α) =
        .ok (Scalar.ofReal x) := by
  obtain ⟨x, hx⟩ := (hmark.numeral hm h).exists_read?
  refine ⟨x, fun {α} _ => ?_⟩
  rw [Scalar.ofLiteral_eq, hx]

end Number
end QuantityCalculus
