/-
# Names that can be used

Whether a text may be registered as a name and whether an expression can mention it are decided by
two definitions that do not know of each other: the form of a name, and the scanner's words. Every
word but the reserved one can be registered. The converse fails for three kinds of names only: those
that start with an underscore, those with a numeral such as `²`, which is no decimal digit, and
those with a line break at the end. They can be registered, and no expression that is read mentions
them.

**Main statements.** `isWord_iff`: what the scanner takes for a single word; `read_of_isWord`: a
word is read as a unit or a name; `usable_iff_word`: a plain name can be registered exactly if it is
a word other than the reserved one, and a name that can be registered is mentioned in some
expression exactly if it is plain.
-/

import QuantityCalculus.Proofs.Expr.Names
import QuantityCalculus.Proofs.Expr.Reread

namespace QuantityCalculus

/-! ### Numerals -/

namespace Text

/-- No numeral is both a decimal digit and another one, nor a letter. -/
theorem numerals_apart : (otherNumeralRanges.all fun n =>
    (letterRanges.all fun r => Nat.blt n.2 r.1 || Nat.blt r.2 n.1) &&
      zeroDigits.all fun z => Nat.blt n.2 z || Nat.blt (z + 9) n.1) = true := by
  decide +kernel

/-- A character that goes on in a word is no numeral but a decimal digit. -/
theorem covers_otherNumerals_of_isWordChar {c : Char} (h : Token.isWordChar c = true) :
    covers otherNumeralRanges c.toNat = false := by
  refine Bool.eq_false_iff.2 fun hc => ?_
  obtain ⟨n, hn, hlow, hhigh⟩ := exists_of_covers hc
  have hapart := List.all_eq_true.1 numerals_apart n hn
  rw [Bool.and_eq_true, List.all_eq_true, List.all_eq_true] at hapart
  obtain ⟨hletters, hdigits⟩ := hapart
  simp only [Token.isWordChar, Bool.or_eq_true, beq_iff_eq] at h
  rcases h with (h | h) | rfl
  · obtain ⟨r, hr, h₁, h₂⟩ := exists_of_covers h
    have := hletters r hr
    simp only [Bool.or_eq_true, Nat.blt_eq] at this
    omega
  · obtain ⟨d, hd⟩ := Option.isSome_iff_exists.1 h
    obtain ⟨z, hz, -⟩ := Option.map_eq_some_iff.1 hd
    have hdigit := List.find?_some hz
    have := hdigits z (List.mem_of_find?_eq_some hz)
    simp only [Bool.or_eq_true, Nat.blt_eq] at this
    simp only [Bool.and_eq_true, decide_eq_true_eq] at hdigit
    omega
  · exact absurd hc (by decide)

end Text

/-! ### Words -/

namespace Token

open Text

variable {m : Marks} {name : String}

/-- No gap starts with a letter. -/
theorem isGap_of_isLetter {c : Char} (h : isLetter c = true) : isGap c = false := by
  refine Bool.eq_false_iff.2 fun hc => ?_
  have hblank := isBlank_of_isLetter h
  rw [isBlank_of_isGap hc] at hblank
  cases hblank

/-- The scanner takes a text for a single word. -/
def IsWord (m : Marks) (text : String) : Prop :=
  scan m text = [⟨.word, text, 0, false⟩, ⟨.endOfLine, "", text.toList.length, false⟩]

instance (m : Marks) (text : String) : Decidable (IsWord m text) :=
  inferInstanceAs (Decidable (_ = _))

/-- **A single word** is a letter that separates no arguments, with letters, decimal digits and
underscores behind it. -/
theorem isWord_iff : IsWord m name ↔ ∃ c rest, name.toList = c :: rest ∧ m.separator ≠ some c ∧
    isLetter c = true ∧ ∀ d ∈ rest, isWordChar d = true := by
  constructor
  · intro h
    rcases (scan_eq_iff.1 h).uncons with ⟨hnil, -⟩ | ⟨gap, c, rest, htext, -, -, ht, -⟩
    · cases hnil
    · simp only [Token.mk.injEq, Nat.zero_add] at ht
      obtain ⟨hkind, hcontent, hgap, -⟩ := ht
      obtain rfl : gap = [] := List.length_eq_zero_iff.1 hgap.symm
      have hsep : m.separator ≠ some c := by
        intro hsep
        rw [split_separator hsep] at hkind
        cases hkind
      obtain ⟨hletter, hword⟩ := split_word hkind.symm
      have hname : name.toList = c :: (takeRun isWordChar rest).1 := by
        rw [hcontent, String.toList_ofList, hword]
      exact ⟨c, _, hname, hsep, hletter, takeRun_forall⟩
  · rintro ⟨c, rest, hname, hsep, hletter, hrest⟩
    have hnil : IsGap [] := by simp [IsGap]
    have hsplit : split m c rest = (.word, c :: rest, []) := by
      rw [split_letter hsep hletter, takeRun_of_forall hrest]
    have hscans : Scans m 0 (c :: rest) _ :=
      Scans.token_of_split hnil (isGap_of_isLetter hletter) hsplit (.stop hnil)
    rw [IsWord, scan_eq_iff, hname]
    simpa [← hname] using hscans

/-- **The words of a text** are single words on their own, too. -/
theorem Scans.isWord {column : Nat} {cs : List Char} {ts : List Token}
    (h : Scans m column cs ts) : ∀ t ∈ ts, t.kind = .word → IsWord m t.content := by
  induction h with
  | stop _ =>
    intro t ht hk
    obtain rfl := List.mem_singleton.1 ht
    cases hk
  | @token column gap c rest ts _ _ _ ih =>
    intro t ht hk
    rcases List.mem_cons.1 ht with rfl | ht
    · obtain ⟨hletter, hword⟩ := split_word hk
      refine isWord_iff.2 ⟨c, _, by rw [String.toList_ofList, hword], fun hsep => ?_, hletter,
        takeRun_forall⟩
      have hk : (split m c rest).1 = .word := hk
      rw [split_separator hsep] at hk
      cases hk
    · exact ih t ht hk

/-- A word with a pair of parentheses behind it. -/
theorem IsWord.scan_call (h : IsWord .standard name) :
    scan .standard (name ++ "()") = [⟨.word, name, 0, false⟩,
      ⟨.leftParen, "(", name.toList.length, false⟩,
      ⟨.rightParen, ")", name.toList.length + 1, false⟩,
      ⟨.endOfLine, "", name.toList.length + 2, false⟩] := by
  obtain ⟨c, rest, hname, hsep, hletter, hrest⟩ := isWord_iff.1 h
  have hnil : IsGap [] := by simp [IsGap]
  have hrun : takeRun isWordChar (rest ++ ['(', ')']) = (rest, ['(', ')']) := by
    have hparen : isWordChar '(' = false := by decide +kernel
    simp [takeRun, List.takeWhile_append_of_pos hrest, List.dropWhile_append_of_pos hrest, hparen]
  have hword : split .standard c (rest ++ ['(', ')']) = (.word, c :: rest, ['(', ')']) := by
    rw [split_letter hsep hletter, hrun]
  have hscans : Scans .standard 0 (c :: (rest ++ ['(', ')'])) _ :=
    Scans.token_of_split hnil (isGap_of_isLetter hletter) hword
      (Scans.token_of_split hnil rfl rfl (Scans.token_of_split hnil rfl rfl (.stop hnil)))
  rw [scan_eq_iff, String.toList_append, hname]
  have hback : String.ofList (c :: rest) = name := by rw [← hname, String.ofList_toList]
  rw [hback] at hscans
  simpa using hscans

end Token

namespace Expr

open Text Token

variable {m : Marks} {name : String}

/-- **A word is read** as the unit or the variable of that name. -/
theorem read_of_isWord (h : IsWord m name) (isUnit : String → Bool) :
    read m isUnit name = .ok (if isUnit name then .unit name else .name name) := by
  have hleaf : Leaf ⟨name.toList, isUnit⟩ ⟨.word, name, 0, false⟩
      (if isUnit name then .unit name else .name name) := by
    cases hunit : isUnit name with
    | true => exact .inr (.inl ⟨rfl, hunit, rfl⟩)
    | false => exact .inr (.inr ⟨rfl, hunit, rfl⟩)
  have hread : Reads ⟨name.toList, isUnit⟩ 249 (.operand true)
      [⟨.word, name, 0, false⟩, ⟨.endOfLine, "", name.toList.length, false⟩]
      (if isUnit name then .unit name else .name name)
      [⟨.endOfLine, "", name.toList.length, false⟩] :=
    hleaf.reads rfl rfl rfl rfl
  rw [read, readWithin, h]
  exact ofTokens_eq_ok_iff.2 ⟨249, _, rfl, hread.toAssignment trivial rfl, rfl⟩

/-- A word with parentheses behind it is a call without arguments. -/
theorem read_call_of_isWord (h : IsWord .standard name) (isUnit : String → Bool) :
    read .standard isUnit (name ++ "()") = .ok (.call name [] (name ++ "()")) := by
  have hink : EndsInInk (name ++ "()").toList := by
    rw [String.toList_append]
    have hparens : EndsInInk "()".toList := by
      rintro c ⟨⟩
      decide +kernel
    exact hparens.behind (by decide)
  have hcontent : Source.upTo ⟨(name ++ "()").toList, isUnit⟩ 0
      [⟨.endOfLine, "", name.toList.length + 2, false⟩] = name ++ "()" := by
    have hlength : (name ++ "()").toList.length = name.toList.length + 2 := by simp
    rw [Source.upTo, columnOf_cons, slice, List.drop_zero, ← hlength, List.take_length,
      hink.trimEnd, String.ofList_toList]
  have hread : Reads ⟨(name ++ "()").toList, isUnit⟩ 249 (.operand true) [⟨.word, name, 0, false⟩,
      ⟨.leftParen, "(", name.toList.length, false⟩,
      ⟨.rightParen, ")", name.toList.length + 1, false⟩,
      ⟨.endOfLine, "", name.toList.length + 2, false⟩]
      (.call name [] (Source.upTo ⟨(name ++ "()").toList, isUnit⟩ 0
        [⟨.endOfLine, "", name.toList.length + 2, false⟩]))
      [⟨.endOfLine, "", name.toList.length + 2, false⟩] :=
    .emptyCall rfl rfl rfl
  rw [hcontent] at hread
  rw [read, readWithin, h.scan_call]
  exact ofTokens_eq_ok_iff.2 ⟨249, _, rfl, hread.toAssignment trivial rfl, rfl⟩

/-- The names in what is read are words of its marks. -/
theorem isWord_of_mem_names {isUnit : String → Bool} {text : String} {e : Expr}
    (h : read m isUnit text = .ok e) (hn : name ∈ e.names) : IsWord m name := by
  obtain ⟨t, ht, rfl⟩ := List.mem_map.1 (names_subset_words h hn)
  obtain ⟨ht, hk⟩ := List.mem_filter.1 ht
  exact (scan_eq_iff.1 rfl).isWord t ht (by simpa using hk)

end Expr

/-! ### Names -/

namespace Name

open Text Token

variable {name : String} {role : NameRole}

/-- A name that does not start with an underscore, has no numerals but decimal digits and no line
break at its end. -/
structure Plain (name : String) : Prop where
  start : name.toList.head? ≠ some '_'
  numerals : ∀ c ∈ name.toList, covers otherNumeralRanges c.toNat = false
  ending : name.toList.getLast? ≠ some '\n'

/-- Without other numerals, a name goes on like a word. -/
theorem isWordChar_of_isNameChar {c : Char} (h : isNameChar c = true)
    (hn : covers otherNumeralRanges c.toNat = false) : isWordChar c = true := by
  simpa [isNameChar, isWordChar, hn] using h

/-- **A plain name that can be registered is a word.** -/
theorem isWord_of_check (h : check name role = .ok ()) (hp : Plain name) :
    IsWord .standard name := by
  have hformed := (check_eq_ok_iff.1 h).1
  unfold isWellFormed at hformed
  cases hname : name.toList with
  | nil =>
    rw [hname] at hformed
    cases hformed
  | cons c rest =>
    rw [hname] at hformed
    simp only [Bool.and_eq_true, isFirstChar, Bool.not_eq_true'] at hformed
    obtain ⟨⟨hfirst, hdigit⟩, hall⟩ := hformed
    have hnumerals : ∀ d ∈ c :: rest, covers otherNumeralRanges d.toNat = false :=
      hname ▸ hp.numerals
    -- the overlooked line break would be the last character
    have hdrop : dropLastBreak rest = rest := by
      refine if_neg fun hlast => hp.ending ?_
      rw [hname, List.getLast?_cons, hlast]
      rfl
    rw [hdrop] at hall
    have hletter : isLetter c = true := by
      have hword := isWordChar_of_isNameChar hfirst (hnumerals c (List.mem_cons_self ..))
      have hstart : c ≠ '_' := by
        rintro rfl
        exact hp.start (by rw [hname]; rfl)
      simpa [isWordChar, hdigit, hstart] using hword
    have hsep : Marks.standard.separator ≠ some c := by
      rintro ⟨⟩
      exact absurd hletter (by decide +kernel)
    exact isWord_iff.2 ⟨c, rest, hname, hsep, hletter, fun d hd =>
      isWordChar_of_isNameChar (List.all_eq_true.1 hall d hd)
        (hnumerals d (List.mem_cons_of_mem c hd))⟩

/-- A word is a plain name, whatever the marks. -/
theorem plain_of_isWord {m : Marks} (h : IsWord m name) : Plain name := by
  obtain ⟨c, rest, hname, -, hletter, hrest⟩ := isWord_iff.1 h
  have hword : ∀ d ∈ name.toList, isWordChar d = true := by
    rw [hname]
    intro d hd
    rcases List.mem_cons.1 hd with rfl | hd
    · simp [isWordChar, hletter]
    · exact hrest d hd
  constructor
  · rw [hname]
    rintro ⟨⟩
    exact absurd hletter (by decide +kernel)
  · exact fun d hd => covers_otherNumerals_of_isWordChar (hword d hd)
  · exact fun hbreak => absurd (hword _ (List.mem_of_getLast? hbreak)) (by decide +kernel)

/-- The plain names that can be registered are the words but the reserved one. -/
theorem check_iff_isWord :
    check name role = .ok () ∧ Plain name ↔ name ≠ reserved ∧ IsWord .standard name := by
  constructor
  · rintro ⟨hcheck, hplain⟩
    exact ⟨(check_eq_ok_iff.1 hcheck).2, isWord_of_check hcheck hplain⟩
  · rintro ⟨hne, hword⟩
    obtain ⟨c, rest, hname, -, hletter, hrest⟩ := isWord_iff.1 hword
    rcases written_of_chars hname hletter hrest with hcheck | hreserved
    · exact ⟨check_eq_ok_iff.2 (check_eq_ok_iff.1 hcheck), plain_of_isWord hword⟩
    · exact absurd hreserved hne

/-- A name that can be registered is plain exactly if some expression mentions it. -/
theorem plain_iff_mentioned (h : check name role = .ok ()) :
    Plain name ↔ ∃ isUnit text e, Expr.read .standard isUnit text = .ok e ∧ name ∈ e.names := by
  constructor
  · intro hplain
    have hread := Expr.read_of_isWord (isWord_of_check h hplain) fun _ => false
    exact ⟨_, name, _, hread, by simp [Expr.names, Expr.walk, Expr.name?]⟩
  · rintro ⟨isUnit, text, e, hread, hname⟩
    exact plain_of_isWord (Expr.isWord_of_mem_names hread hname)

/-- **The names that can be registered and used.** A text is a plain name that can be registered
exactly if it is not reserved and the scanner takes all of it for a single word. It is then read as
the unit or the variable of that name, and with parentheses behind it as a call of the function. A
name that can be registered but is not plain is mentioned in no expression. -/
theorem usable_iff_word (name : String) (role : NameRole) :
    (check name role = .ok () ∧ Plain name ↔ name ≠ reserved ∧ IsWord .standard name) ∧
    (IsWord .standard name → ∀ isUnit : String → Bool,
      Expr.read .standard isUnit name = .ok (if isUnit name then .unit name else .name name) ∧
      Expr.read .standard isUnit (name ++ "()") = .ok (.call name [] (name ++ "()"))) ∧
    (check name role = .ok () → (Plain name ↔
      ∃ isUnit text e, Expr.read .standard isUnit text = .ok e ∧ name ∈ e.names)) :=
  ⟨check_iff_isWord,
    fun h isUnit => ⟨Expr.read_of_isWord h isUnit, Expr.read_call_of_isWord h isUnit⟩,
    plain_iff_mentioned⟩

/-- A unit of lengths is read as a unit. -/
theorem usable_km : check "km" .unit = .ok () ∧ IsWord .standard "km" ∧
    Expr.read .standard (· == "km") "km" = .ok (.unit "km") := by
  have hword : IsWord .standard "km" := by decide +kernel
  obtain ⟨hiff, hread, -⟩ := usable_iff_word "km" .unit
  exact ⟨(hiff.2 ⟨by decide, hword⟩).1, hword, (hread hword _).1⟩

/-- An underscore in front, a superscript and a line break at the end are overlooked when a name is
registered, though none of these is a word. -/
theorem registered_not_words :
    (check "_m" .unit = .ok () ∧ ¬ IsWord .standard "_m") ∧
    (check "m²" .unit = .ok () ∧ ¬ IsWord .standard "m²") ∧
    check "m\n" .unit = .ok () ∧ ¬ IsWord .standard "m\n" := by
  decide +kernel

end Name
end QuantityCalculus
