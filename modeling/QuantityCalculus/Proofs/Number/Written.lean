/-
# Texts of decimal numbers

A decimal number is written in one of three ways: as its digits, with a point among them or zeros in
front of them, and with an exponent. Each is a row of ASCII digits with a fraction and an exponent
that may be missing, and the readers of numbers see nothing but these parts. So a text that was made
of a decimal number is read as this number again, and as the double nearest to it.

**Main statements.** `written_magnitude`: the form of a text; `Written.numeral` and `Written.read?`:
its double; `read?_text`: the decimal number again.
-/

import QuantityCalculus.Proofs.Number.Numeral
import QuantityCalculus.Proofs.Number.Scientific

namespace QuantityCalculus
namespace Number
namespace Scientific

open Text

variable {cs ds rest : List Char} {c : ℕ} {e : ℤ}

/-! ### The form of a text -/

/-- ASCII digits. -/
def AreAscii (cs : List Char) : Prop := ∀ c ∈ cs, c.isDigit = true

/-- A point with digits behind it, or nothing, and the digits. -/
inductive WrittenFraction : List Char → List Char → Prop
  | absent : WrittenFraction [] []
  | present {places : List Char} : WrittenFraction ('.' :: places) places

/-- The letter `E`, a sign and the digits of a number, or nothing, and the exponent. -/
inductive WrittenExponent : List Char → ℤ → Prop
  | absent : WrittenExponent [] 0
  | positive (n : ℕ) : WrittenExponent ('E' :: '+' :: decimal n) n
  | negative (n : ℕ) : WrittenExponent ('E' :: '-' :: decimal n) (-n)

/-- Digits, with a fraction and an exponent if they are there, that stand for a coefficient and an
exponent. -/
inductive Written : List Char → ℕ → ℤ → Prop
  | parts {whole fraction places exponent : List Char} {c : ℕ} {n e : ℤ} : whole ≠ [] →
    AreAscii (whole ++ places) → WrittenFraction fraction places → WrittenExponent exponent n →
    natOf (whole ++ places) = c → n - places.length = e →
    Written (whole ++ (fraction ++ exponent)) c e

theorem natOf_eq (cs : List Char) : natOf cs = Nat.ofDigitChars 10 cs 0 := rfl

@[simp] theorem natOf_decimal (n : ℕ) : natOf (decimal n) = n := Nat.ofDigitChars_ten_toDigits

theorem areAscii_decimal (n : ℕ) : AreAscii (decimal n) :=
  fun _ hc => Nat.isDigit_of_mem_toDigits (by decide) (by decide) hc

theorem decimal_ne_nil (n : ℕ) : decimal n ≠ [] :=
  List.length_pos_iff.1 Nat.length_toDigits_pos

/-- Zeros in front do not count. -/
theorem natOf_zeros (k n : ℕ) : natOf ('0' :: (List.replicate k '0' ++ decimal n)) = n := by
  have hzeros : '0' :: (List.replicate k '0' ++ decimal n) =
      List.replicate (k + 1) '0' ++ decimal n := rfl
  rw [hzeros, natOf_eq, Nat.ofDigitChars_append, Nat.ofDigitChars_replicate_zero, Nat.mul_zero,
    ← natOf_eq, natOf_decimal]

/-- Digits with a point in them or in front of them. -/
theorem written_pointed (h : e < 0) :
    Written (pointed (decimal c) (e + (decimal c).length)) c e := by
  unfold pointed
  split
  · rename_i hplaces
    have hsplit := List.take_append_drop (e + (decimal c).length).toNat (decimal c)
    have hwhole : (decimal c).take (e + (decimal c).length).toNat ≠ [] := by
      simp only [ne_eq, List.take_eq_nil_iff, decimal_ne_nil, or_false]
      omega
    have hlength : (0 : ℤ) - ((decimal c).drop (e + (decimal c).length).toNat).length = e := by
      rw [List.length_drop]
      omega
    have hwritten := Written.parts (c := c) hwhole (hsplit.symm ▸ areAscii_decimal c)
      WrittenFraction.present WrittenExponent.absent (by rw [hsplit, natOf_decimal]) hlength
    simpa using hwritten
  · rename_i hplaces
    have hascii : AreAscii (['0'] ++
        (List.replicate (-(e + (decimal c).length)).toNat '0' ++ decimal c)) := by
      intro d hd
      simp only [List.mem_append, List.mem_singleton, List.mem_replicate] at hd
      rcases hd with rfl | ⟨-, rfl⟩ | hd
      · rfl
      · rfl
      · exact areAscii_decimal c d hd
    have hlength : (0 : ℤ) - (List.replicate (-(e + (decimal c).length)).toNat '0' ++
        decimal c).length = e := by
      rw [List.length_append, List.length_replicate]
      omega
    have hwritten := Written.parts (c := c) (List.cons_ne_nil _ _) hascii
      WrittenFraction.present WrittenExponent.absent (natOf_zeros _ c) hlength
    simpa using hwritten

/-- The exponent of the first digit, with its sign. -/
theorem writtenExponent_sign (n : ℤ) :
    WrittenExponent ('E' :: (if n < 0 then '-' else '+') :: decimal n.natAbs) n := by
  split
  · have h := WrittenExponent.negative n.natAbs
    rwa [show -(n.natAbs : ℤ) = n by omega] at h
  · have h := WrittenExponent.positive n.natAbs
    rwa [show (n.natAbs : ℤ) = n by omega] at h

/-- **The text of a coefficient and exponent.** -/
theorem written_magnitude (c : ℕ) (e : ℤ) : Written (magnitude c e) c e := by
  unfold magnitude
  dsimp only
  split
  · rename_i hzero
    have hascii : AreAscii (decimal c ++ []) := by simpa using areAscii_decimal c
    have hwritten := Written.parts (c := c) (e := e) (decimal_ne_nil c) hascii
      WrittenFraction.absent WrittenExponent.absent (by simp) (by simp [hzero])
    simpa using hwritten
  · split
    · rename_i h
      exact written_pointed h.1
    · have hexponent := writtenExponent_sign (e + (decimal c).length - 1)
      have hdigits := natOf_decimal c
      have hascii := areAscii_decimal c
      cases hd : decimal c with
      | nil => exact absurd hd (decimal_ne_nil c)
      | cons d more =>
        rw [hd] at hexponent hdigits hascii
        cases more with
        | nil =>
          exact .parts (List.cons_ne_nil d []) hascii .absent hexponent hdigits (by simp)
        | cons d' more =>
          have hlength :
              e + ((d :: d' :: more).length : ℤ) - 1 - ((d' :: more).length : ℤ) = e := by
            simp only [List.length_cons]
            omega
          exact .parts (List.cons_ne_nil d []) hascii .present hexponent hdigits hlength

/-- The characters of a text. -/
theorem Written.mem {d : Char} (h : Written cs c e) (hd : d ∈ cs) :
    d.isDigit = true ∨ d ∈ ['.', 'E', '+', '-'] := by
  obtain ⟨-, hascii, hfraction, hexponent, -, -⟩ := h
  simp only [List.mem_append] at hd
  rcases hd with hd | hd | hd
  · exact .inl (hascii d (List.mem_append_left _ hd))
  · cases hfraction with
    | absent => cases hd
    | present =>
      rcases List.mem_cons.1 hd with rfl | hd
      · exact .inr (by decide)
      · exact .inl (hascii d (List.mem_append_right _ hd))
  · cases hexponent with
    | absent => cases hd
    | positive n | negative n =>
      simp only [List.mem_cons] at hd
      rcases hd with rfl | rfl | hd
      · exact .inr (by decide)
      · exact .inr (by decide)
      · exact .inl (areAscii_decimal n d hd)

/-! ### The double that a text is read as -/

theorem AreAscii.areDigits (h : AreAscii cs) : AreDigits cs := fun d hd => by
  rw [isDigit, digitValue?_of_isDigit (h d hd)]
  rfl

theorem AreAscii.append_left (h : AreAscii (cs ++ ds)) : AreAscii cs :=
  fun d hd => h d (List.mem_append_left _ hd)

theorem AreAscii.append_right (h : AreAscii (cs ++ ds)) : AreAscii ds :=
  fun d hd => h d (List.mem_append_right _ hd)

theorem AreAscii.filterMap (h : AreAscii cs) :
    cs.filterMap digitValue? = cs.map fun d => d.toNat - 48 := by
  rw [← List.filterMap_eq_map]
  exact List.filterMap_congr fun d hd => digitValue?_of_isDigit (h d hd)

/-- The values of ASCII digits are the digits of their number. -/
theorem digitsValue_filterMap (h : AreAscii cs) :
    digitsValue (cs.filterMap digitValue?) = natOf cs := by
  rw [h.filterMap, digitsValue, List.foldl_map]
  rfl

theorem WrittenFraction.fractionPart {fraction places : List Char}
    (h : WrittenFraction fraction places) (hp : AreAscii places) :
    FractionPart '.' fraction ∧ fraction.tail = places := by
  cases h with
  | absent => exact ⟨.absent, rfl⟩
  | present => exact ⟨.present hp.areDigits, rfl⟩

/-- The digits of a number are one digit and others. -/
theorem exists_decimal_eq (n : ℕ) : ∃ d ds, decimal n = d :: ds ∧ AreDigits (d :: ds) := by
  obtain ⟨d, ds, hd⟩ := List.exists_cons_of_ne_nil (decimal_ne_nil n)
  exact ⟨d, ds, hd, hd ▸ (areAscii_decimal n).areDigits⟩

theorem WrittenExponent.exponentPart {exponent : List Char} {n : ℤ}
    (h : WrittenExponent exponent n) : ExponentPart exponent := by
  cases h with
  | absent => exact .absent
  | positive n =>
    obtain ⟨d, ds, hn, hdigits⟩ := exists_decimal_eq n
    exact hn ▸ .signed (.inr rfl) (.inl rfl) hdigits
  | negative n =>
    obtain ⟨d, ds, hn, hdigits⟩ := exists_decimal_eq n
    exact hn ▸ .signed (.inr rfl) (.inr rfl) hdigits

theorem takeDigits_decimal (n : ℕ) :
    ∃ v vs, takeDigits (decimal n) = (v :: vs, []) ∧ digitsValue (v :: vs) = n := by
  obtain ⟨d, ds, hn, hdigits⟩ := exists_decimal_eq n
  obtain ⟨v, hv⟩ := hdigits.filterMap_cons
  have hvalue := digitsValue_filterMap (areAscii_decimal n)
  rw [natOf_decimal, hn, hv] at hvalue
  exact ⟨v, _, by rw [hn, takeDigits_of_areDigits hdigits, hv], hvalue⟩

/-- The exponent is read as it was written. -/
theorem WrittenExponent.exponent? {exponent : List Char} {n : ℤ} (h : WrittenExponent exponent n) :
    Number.exponent? exponent = some n := by
  cases h with
  | absent => rfl
  | positive n | negative n =>
    obtain ⟨v, vs, htake, hvalue⟩ := takeDigits_decimal n
    simp [Number.exponent?, takeSign, htake, hvalue]

theorem Written.numeral (h : Written cs c e) : Numeral '.' cs := by
  obtain @⟨whole, fraction, places, exponent, c, n, e, hne, hascii, hfraction, hexponent, -, -⟩ := h
  obtain ⟨d, ds, rfl⟩ := List.exists_cons_of_ne_nil hne
  exact .parts hascii.append_left.areDigits (hfraction.fractionPart hascii.append_right).1
    hexponent.exponentPart

/-- **A text is read as the double** nearest to its number. -/
theorem Written.read? (h : Written cs c e) : Number.read? cs = some (ofRat (c * 10 ^ e)) := by
  rw [h.numeral.read?_eq]
  obtain @⟨whole, fraction, places, exponent, c, n, e, hne, hascii, hfraction, hexponent, rfl,
    rfl⟩ := h
  obtain ⟨d, ds, rfl⟩ := List.exists_cons_of_ne_nil hne
  obtain ⟨hpart, rfl⟩ := hfraction.fractionPart hascii.append_right
  have hlength : (fraction.tail.filterMap digitValue?).length = fraction.tail.length := by
    rw [hascii.append_right.filterMap, List.length_map]
  rw [List.cons_append, unsigned?_parts hascii.append_left.areDigits hpart hexponent.exponentPart,
    hexponent.exponent?, ← List.filterMap_append, digitsValue_filterMap hascii, hlength,
    Option.map_some, ofDecimal_eq_ofRat]

/-! ### The decimal number that a text is read as -/

/-- All ASCII digits in front of something else. -/
theorem span_areAscii (hds : AreAscii ds) (hrest : ∀ d ∈ rest.head?, d.isDigit = false) :
    (ds ++ rest).takeWhile Char.isDigit = ds ∧ (ds ++ rest).dropWhile Char.isDigit = rest := by
  rw [List.takeWhile_append_of_pos hds, List.dropWhile_append_of_pos hds]
  cases rest with
  | nil => simp
  | cons d rest => simp [hrest d rfl]

theorem WrittenExponent.exponentOf? {exponent : List Char} {n : ℤ}
    (h : WrittenExponent exponent n) : Scientific.exponentOf? exponent = some n := by
  cases h with
  | absent => rfl
  | positive n | negative n =>
    have hall : (decimal n).all Char.isDigit = true := List.all_eq_true.2 (areAscii_decimal n)
    simp [Scientific.exponentOf?, takeSign, decimal_ne_nil, hall]

/-- What starts with a digit does not start like a word that starts with something else. -/
theorem take_ne_of_isDigit {d a : Char} {word : String} {as : List Char} (hd : d.isDigit = true)
    (hword : word.toList = a :: as) (ha : a.isDigit = false) (ds : List Char) (k : ℕ) :
    ((d :: ds).map Char.toLower).take k ≠ word.toList := by
  have hlower : d.toLower = d := by
    refine toLower_of_isDigit ?_
    rw [isDigit, digitValue?_of_isDigit hd]
    rfl
  rw [hword, List.map_cons, hlower]
  cases k with
  | zero => simp
  | succ k =>
    rintro h
    rw [List.take_succ_cons, List.cons.injEq] at h
    rw [← h.1, hd] at ha
    cases ha

/-- **A text is read as its coefficient and exponent.** -/
theorem Written.unsigned? (h : Written cs c e) (negative : Bool) :
    Scientific.unsigned? negative cs = some (.finite negative c e) := by
  obtain @⟨whole, fraction, places, exponent, c, n, e, hne, hascii, hfraction, hexponent, rfl,
    rfl⟩ := h
  obtain ⟨d, ds, rfl⟩ := List.exists_cons_of_ne_nil hne
  have hd : d.isDigit = true := hascii d (List.mem_cons_self ..)
  have hword (word : String) {a : Char} {as : List Char} (hw : word.toList = a :: as)
      (ha : a.isDigit = false) := take_ne_of_isDigit hd hw ha (ds ++ (fraction ++ exponent))
  have hfollow : ∀ d ∈ exponent.head?, d.isDigit = false := by
    intro d hd
    cases hexponent <;> cases hd <;> rfl
  have hvalue := hexponent.exponentOf?
  unfold Scientific.unsigned?
  rw [List.cons_append, if_neg, if_neg, if_neg]
  · rw [← List.cons_append]
    cases hfraction with
    | absent =>
      obtain ⟨htake, hdrop⟩ := span_areAscii hascii.append_left hfollow
      rw [List.nil_append, htake, hdrop]
      cases hexponent <;> simp [hvalue]
    | @present places =>
      have hpoint : ∀ d ∈ ('.' :: places ++ exponent).head?, d.isDigit = false := by
        simp
      obtain ⟨htake, hdrop⟩ := span_areAscii hascii.append_left hpoint
      obtain ⟨htake', hdrop'⟩ := span_areAscii hascii.append_right hfollow
      rw [htake, hdrop]
      simp [htake', hdrop', hvalue]
  · rintro ⟨-, h⟩
    exact hword "nan" rfl rfl 3 (by simpa using congrArg String.toList h)
  · rintro ⟨-, h⟩
    exact hword "snan" rfl rfl 4 (by simpa using congrArg String.toList h)
  · rintro (h | h)
    · have h := congrArg String.toList h
      rw [String.toList_ofList] at h
      exact hword "inf" rfl rfl 3 (by rw [h]; rfl)
    · have h := congrArg String.toList h
      rw [String.toList_ofList] at h
      exact hword "infinity" rfl rfl 8 (by rw [h]; rfl)

/-- A character of a text is no blank, is an ASCII digit if it is a digit, and is no underscore. -/
theorem plain_of_mem {d : Char} (h : d.isDigit = true ∨ d ∈ ['.', 'E', '+', '-']) :
    isBlank d = false ∧ (∀ v, digitValue? d = some v → Char.ofNat (48 + v) = d) ∧ d ≠ '_' := by
  rcases h with hd | hd
  · have hvalue := digitValue?_of_isDigit hd
    refine ⟨isBlank_of_isDigit (by rw [isDigit, hvalue]; rfl), fun v hv => ?_, ?_⟩
    · obtain rfl := Option.some.inj (hvalue.symm.trans hv)
      exact (ofNat_of_isDigit hd).2
    · rintro rfl
      cases hd
  · have key : isBlank d = false ∧ digitValue? d = none ∧ d ≠ '_' := by
      simp only [List.mem_cons, List.not_mem_nil, or_false] at hd
      rcases hd with rfl | rfl | rfl | rfl <;> decide +kernel
    obtain ⟨hblank, hvalue, hne⟩ := key
    exact ⟨hblank, fun v hv => (by rw [hvalue] at hv; cases hv), hne⟩

/-- Nothing is ignored in a text. -/
theorem plainDigits_trim (h : ∀ d ∈ cs, d.isDigit = true ∨ d ∈ ['.', 'E', '+', '-']) :
    (plainDigits (trim cs)).filter (· != '_') = cs := by
  have hink : ∀ d ∈ cs, isBlank d = false := fun d hd => (plain_of_mem (h d hd)).1
  have hplain : plainDigits cs = cs := by
    unfold plainDigits
    conv_rhs => rw [← List.map_id cs]
    refine List.map_congr_left fun d hd => ?_
    have hvalue := (plain_of_mem (h d hd)).2.1
    split
    · rename_i v hv
      exact hvalue v hv
    · rfl
  have hdrop : cs.dropWhile isBlank = cs := by
    cases cs with
    | nil => rfl
    | cons d cs => exact List.dropWhile_cons_of_neg (by simp [hink d (List.mem_cons_self ..)])
  rw [trim, hdrop, (endsInInk_of_forall hink).trimEnd, hplain, List.filter_eq_self]
  exact fun d hd => by simpa using (plain_of_mem (h d hd)).2.2

/-- **The text of a decimal number is read as this number.** -/
theorem read?_text (negative : Bool) (c : ℕ) (e : ℤ) :
    Scientific.read? (finite negative c e).text = some (.finite negative c e) := by
  have hwritten := written_magnitude c e
  have hchars : ∀ d ∈ (if negative then '-' :: magnitude c e else magnitude c e),
      d.isDigit = true ∨ d ∈ ['.', 'E', '+', '-'] := by
    intro d hd
    cases negative with
    | false => exact hwritten.mem hd
    | true =>
      rcases List.mem_cons.1 hd with rfl | hd
      · exact .inr (by decide)
      · exact hwritten.mem hd
  have hsign : takeSign (if negative then '-' :: magnitude c e else magnitude c e) =
      (negative, magnitude c e) := by
    cases negative with
    | false => exact hwritten.numeral.takeSign
    | true => rfl
  rw [text, signed, Scientific.read?, String.toList_ofList]
  simp only [plainDigits_trim hchars, hsign, hwritten.unsigned?]

end Scientific
end Number
end QuantityCalculus
