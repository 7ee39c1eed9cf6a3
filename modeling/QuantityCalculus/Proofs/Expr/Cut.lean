/-
# Tokens of a part of a text

A part of a text that goes from the start of one token to the end of another scans to the same
tokens, in other columns: a scanner takes the longest token that there is, and what is cut off
behind a token does not make it longer or shorter.

**Main statements.**

* `split_of_prefix`: a token is the same in front of any beginning of what follows it.
* `Scans.cut`: some tokens out of the middle are what their own characters scan to.
-/

import QuantityCalculus.Proofs.Expr.Scan
import QuantityCalculus.Proofs.Text.Blank

namespace QuantityCalculus
namespace Token

open Text

/-! ### Cutting off what follows a token -/

/-- A scanner takes the same characters in front of any beginning of what it leaves. -/
def Stable (f : List Char → List Char × List Char) : Prop :=
  ∀ {cs after}, after <+: (f cs).2 → f ((f cs).1 ++ after) = ((f cs).1, after)

theorem takeRun_stable (p : Char → Bool) : Stable (takeRun p) := by
  intro cs
  induction cs with
  | nil =>
    intro after h
    obtain rfl := List.prefix_nil.1 h
    rfl
  | cons c cs ih =>
    intro after h
    cases hc : p c with
    | true =>
      simp only [takeRun, List.takeWhile_cons, List.dropWhile_cons, hc, if_true] at h ih ⊢
      have := ih h
      simp_all
    | false =>
      simp only [takeRun, List.takeWhile_cons, List.dropWhile_cons, hc] at h ⊢
      cases after with
      | nil => rfl
      | cons c' after =>
        obtain ⟨rfl, -⟩ := List.cons_prefix_cons.1 h
        simp [hc]

theorem takeFraction_stable (m : Marks) : Stable (takeFraction m) := by
  intro cs after h
  cases cs with
  | nil =>
    obtain rfl := List.prefix_nil.1 h
    rfl
  | cons c cs =>
    by_cases hc : m.decimal = some c
    · simp only [takeFraction, hc, if_true] at h ⊢
      simp [takeRun_stable isDigit h]
    · simp only [takeFraction, hc, if_false] at h ⊢
      cases after with
      | nil => rfl
      | cons c' after =>
        obtain ⟨rfl, -⟩ := List.cons_prefix_cons.1 h
        simp [hc]

theorem isDigit_ne_sign {s : Char} (h : isDigit s = true) : ¬(s = '+' ∨ s = '-') := by
  rintro (rfl | rfl) <;> revert h <;> decide

theorem takeExponent_signed {c s d : Char} {rest : List Char} (hc : c = 'e' ∨ c = 'E')
    (hs : s = '+' ∨ s = '-') (hd : isDigit d = true) :
    takeExponent (c :: s :: d :: rest) =
      (c :: s :: d :: (takeRun isDigit rest).1, (takeRun isDigit rest).2) := by
  simp [takeExponent, hc, hs, hd]

theorem takeExponent_unsigned {c d : Char} {rest : List Char} (hc : c = 'e' ∨ c = 'E')
    (hd : isDigit d = true) :
    takeExponent (c :: d :: rest) =
      (c :: d :: (takeRun isDigit rest).1, (takeRun isDigit rest).2) := by
  cases rest with
  | nil => simp [takeExponent, hc, hd, takeRun]
  | cons d' rest => simp [takeExponent, hc, hd, isDigit_ne_sign hd, takeRun]

/-- An exponent has a sign and a digit, or a digit; or there is none. -/
theorem takeExponent_cases (cs : List Char) :
    (∃ c s d rest, cs = c :: s :: d :: rest ∧ (c = 'e' ∨ c = 'E') ∧ (s = '+' ∨ s = '-') ∧
      isDigit d = true) ∨
    (∃ c d rest, cs = c :: d :: rest ∧ (c = 'e' ∨ c = 'E') ∧ isDigit d = true) ∨
    takeExponent cs = ([], cs) := by
  rcases cs with _ | ⟨c, _ | ⟨s, rest⟩⟩
  · exact .inr (.inr rfl)
  · exact .inr (.inr (by simp [takeExponent]))
  · by_cases hc : c = 'e' ∨ c = 'E'
    · cases hs : isDigit s with
      | true => exact .inr (.inl ⟨c, s, rest, rfl, hc, hs⟩)
      | false =>
        cases rest with
        | nil => exact .inr (.inr (by simp [takeExponent, hs]))
        | cons d rest =>
          by_cases hd : (s = '+' ∨ s = '-') ∧ isDigit d = true
          · exact .inl ⟨c, s, d, rest, rfl, hc, hd⟩
          · exact .inr (.inr (by simp only [takeExponent, hd, hs]; simp))
    · exact .inr (.inr (by simp [takeExponent, hc]))

theorem takeExponent_stable : Stable takeExponent := by
  intro cs after h
  rcases takeExponent_cases cs with
    ⟨c, s, d, rest, rfl, hc, hs, hd⟩ | ⟨c, d, rest, rfl, hc, hd⟩ | hn
  · rw [takeExponent_signed hc hs hd] at h ⊢
    simp only [List.cons_append]
    rw [takeExponent_signed hc hs hd, takeRun_stable isDigit h]
  · rw [takeExponent_unsigned hc hd] at h ⊢
    simp only [List.cons_append]
    rw [takeExponent_unsigned hc hd, takeRun_stable isDigit h]
  · -- an exponent in front of the cut would have been one before
    rw [hn] at h ⊢
    obtain ⟨tail, rfl⟩ := h
    rcases takeExponent_cases after with
      ⟨c, s, d, rest, rfl, hc, hs, hd⟩ | ⟨c, d, rest, rfl, hc, hd⟩ | hn'
    · simp only [List.cons_append] at hn
      rw [takeExponent_signed hc hs hd] at hn
      cases hn
    · simp only [List.cons_append] at hn
      rw [takeExponent_unsigned hc hd] at hn
      cases hn
    · exact hn'

theorem takeNumber_stable (m : Marks) : Stable (takeNumber m) := by
  intro cs after h
  have hw := takeFraction_append m (takeRun isDigit cs).2
  have hf := takeExponent_append (takeFraction m (takeRun isDigit cs).2).2
  simp only [takeNumber] at h ⊢
  obtain ⟨tail, ht⟩ := h
  have h₁ : (takeFraction m (takeRun isDigit cs).2).1 ++
      ((takeExponent (takeFraction m (takeRun isDigit cs).2).2).1 ++ after) <+:
      (takeRun isDigit cs).2 := ⟨tail, by
    simp only [List.append_assoc, ht, hf, hw]⟩
  have h₂ : (takeExponent (takeFraction m (takeRun isDigit cs).2).2).1 ++ after <+:
      (takeFraction m (takeRun isDigit cs).2).2 := ⟨tail, by
    simp only [List.append_assoc, ht, hf]⟩
  simp only [List.append_assoc]
  rw [takeRun_stable isDigit h₁]
  simp only
  rw [takeFraction_stable m h₂]
  simp only
  rw [takeExponent_stable ⟨tail, ht⟩]

/-- **A token is the same in front of any beginning of what follows it.** -/
theorem split_of_prefix {m : Marks} {c : Char} {rest after : List Char}
    (h : after <+: (split m c rest).2.2) :
    ∃ rest', c :: rest' = (split m c rest).2.1 ++ after ∧
      split m c rest' = ((split m c rest).1, (split m c rest).2.1, after) := by
  by_cases hs : m.separator = some c
  · rw [split_separator hs]
    exact ⟨after, rfl, split_separator hs⟩
  cases hl : isLetter c with
  | true =>
    rw [split_letter hs hl] at h ⊢
    refine ⟨(takeRun isWordChar rest).1 ++ after, rfl, ?_⟩
    rw [split_letter hs hl, takeRun_stable isWordChar h]
  | false =>
    cases hd : isDigit c with
    | true =>
      rw [split_digit hs hl hd] at h ⊢
      obtain ⟨x, hx⟩ : ∃ x, (takeNumber m (c :: rest)).1 = c :: x := by
        simp [takeNumber, takeRun, hd]
      have hnum := takeNumber_stable m h
      refine ⟨x ++ after, by rw [hx]; rfl, ?_⟩
      rw [split_digit hs hl hd, ← hnum, hx]
      rfl
    | false =>
      cases ho : single? c with
      | none =>
        rw [split_unknown hs hl hd ho]
        exact ⟨after, rfl, split_unknown hs hl hd ho⟩
      | some k =>
        rcases split_operator rest hs hl hd ho with ⟨d, long, tail, rfl, h2, heq⟩ | ⟨h2, heq⟩
        · rw [heq]
          exact ⟨d :: after, rfl, split_long hs hl hd ho h2⟩
        · rw [heq] at h ⊢
          refine ⟨after, rfl, split_short hs hl hd ho fun d hd' => h2 d ?_⟩
          cases after with
          | nil => cases hd'
          | cons d' after =>
            obtain ⟨tail, rfl⟩ := h
            simpa using hd'

/-! ### The last character of a token -/

theorem isBlank_of_isGap {c : Char} (h : isGap c = true) : isBlank c = true := by
  have h : c = ' ' ∨ c = '\t' := by simpa [isGap] using h
  rcases h with rfl | rfl <;> decide

theorem isBlank_of_isWordChar {c : Char} (h : isWordChar c = true) : isBlank c = false := by
  simp only [isWordChar, Bool.or_eq_true, beq_iff_eq] at h
  rcases h with (h | h) | rfl
  · exact isBlank_of_isLetter h
  · exact isBlank_of_isDigit h
  · decide

theorem takeRun_forall {p : Char → Bool} {cs : List Char} : ∀ c ∈ (takeRun p cs).1, p c = true :=
  fun _ hc => List.all_eq_true.1 List.all_takeWhile _ hc

/-- No mark is a blank. -/
structure Inked (m : Marks) : Prop where
  separator : ∀ c, m.separator = some c → isBlank c = false
  decimal : ∀ c, m.decimal = some c → isBlank c = false

theorem inked_standard : Inked .standard where
  separator c h := by
    cases h
    decide
  decimal c h := by
    cases h
    decide

/-- A blank in a number is the decimal mark. -/
theorem takeNumber_blank (m : Marks) (cs : List Char) :
    ∀ c ∈ (takeNumber m cs).1, isBlank c = true → m.decimal = some c := by
  have hrun : ∀ cs, ∀ c ∈ (takeRun isDigit cs).1, isBlank c = false :=
    fun cs c hc => isBlank_of_isDigit (takeRun_forall c hc)
  have hfraction : ∀ cs, ∀ c ∈ (takeFraction m cs).1, isBlank c = true → m.decimal = some c := by
    intro cs c hc hblank
    cases cs with
    | nil => cases hc
    | cons d cs =>
      simp only [takeFraction] at hc
      split at hc
      · rename_i hd
        rcases List.mem_cons.1 hc with rfl | hc
        · exact hd
        · cases hblank.symm.trans (hrun _ c hc)
      · cases hc
  have hexponent : ∀ cs, ∀ c ∈ (takeExponent cs).1, isBlank c = false := by
    intro cs c hc
    rcases takeExponent_cases cs with
      ⟨a, s, d, rest, rfl, ha, hs, hd⟩ | ⟨a, d, rest, rfl, ha, hd⟩ | hn
    · rw [takeExponent_signed ha hs hd] at hc
      simp only [List.mem_cons] at hc
      rcases hc with rfl | rfl | rfl | hc
      · rcases ha with rfl | rfl <;> decide
      · rcases hs with rfl | rfl <;> decide
      · exact isBlank_of_isDigit hd
      · exact hrun _ c hc
    · rw [takeExponent_unsigned ha hd] at hc
      simp only [List.mem_cons] at hc
      rcases hc with rfl | rfl | hc
      · rcases ha with rfl | rfl <;> decide
      · exact isBlank_of_isDigit hd
      · exact hrun _ c hc
    · rw [hn] at hc
      cases hc
  intro c hc hblank
  simp only [takeNumber, List.mem_append] at hc
  rcases hc with hc | hc | hc
  · cases hblank.symm.trans (hrun _ c hc)
  · exact hfraction _ c hc hblank
  · cases hblank.symm.trans (hexponent _ c hc)

theorem single?_ink {c : Char} {k : TokenKind} (h : single? c = some k) : isBlank c = false := by
  unfold single? at h
  split at h
  all_goals cases h
  all_goals decide

theorem double?_ink {c d : Char} {k : TokenKind} (h : double? c d = some k) :
    isBlank d = false := by
  unfold double? at h
  split at h
  all_goals cases h
  all_goals decide

/-- A blank in a token is the decimal mark, or it is the only character, and then it is the
separator or not known. -/
theorem split_blank (m : Marks) (c : Char) (rest : List Char) :
    ∀ d ∈ (split m c rest).2.1, isBlank d = true → m.decimal = some d ∨
      d = c ∧ (m.separator = some c ∨ (split m c rest).1 = .unknown) := by
  by_cases hs : m.separator = some c
  · rw [split_separator hs]
    exact fun d hd _ => .inr ⟨List.mem_singleton.1 hd, .inl hs⟩
  cases hl : isLetter c with
  | true =>
    rw [split_letter hs hl]
    intro d hd hblank
    rcases List.mem_cons.1 hd with rfl | hd
    · cases hblank.symm.trans (isBlank_of_isLetter hl)
    · cases hblank.symm.trans (isBlank_of_isWordChar (takeRun_forall d hd))
  | false =>
    cases hd : isDigit c with
    | true =>
      rw [split_digit hs hl hd]
      exact fun d hd hblank => .inl (takeNumber_blank m (c :: rest) d hd hblank)
    | false =>
      cases ho : single? c with
      | none =>
        rw [split_unknown hs hl hd ho]
        exact fun d hd _ => .inr ⟨List.mem_singleton.1 hd, .inr rfl⟩
      | some k =>
        have hc := single?_ink ho
        rcases split_operator rest hs hl hd ho with ⟨d, long, tail, rfl, h2, heq⟩ | ⟨-, heq⟩
        · rw [heq]
          intro e he hblank
          rcases List.mem_cons.1 he with rfl | he
          · cases hblank.symm.trans hc
          · cases List.mem_singleton.1 he
            cases hblank.symm.trans (double?_ink h2)
        · rw [heq]
          intro e he hblank
          cases List.mem_singleton.1 he
          cases hblank.symm.trans hc

/-- Where no mark is a blank, a token that is known has no blanks. -/
theorem split_ink {m : Marks} (hm : Inked m) {c : Char} {rest : List Char}
    (hk : (split m c rest).1 ≠ .unknown) : ∀ d ∈ (split m c rest).2.1, isBlank d = false := by
  intro d hd
  refine Bool.eq_false_iff.2 fun hblank => ?_
  rcases split_blank m c rest d hd hblank with hdecimal | ⟨rfl, hseparator | hunknown⟩
  · cases hblank.symm.trans (hm.decimal d hdecimal)
  · cases hblank.symm.trans (hm.separator d hseparator)
  · exact hk hunknown

theorem split_endsInInk {m : Marks} (hm : Inked m) {c : Char} {rest : List Char}
    (hk : (split m c rest).1 ≠ .unknown) : EndsInInk (split m c rest).2.1 :=
  endsInInk_of_forall (split_ink hm hk)

/-! ### Tokens out of the middle -/

/-- The same tokens up to `rest`, `shift` columns to the left, and `rest'` in its place. -/
inductive Copies (shift : Nat) (rest rest' : List Token) : List Token → List Token → Prop
  | stop : Copies shift rest rest' rest rest'
  | cons {t t' : Token} {ts ts' : List Token} : t'.kind = t.kind → t'.content = t.content →
    t.column = t'.column + shift → Copies shift rest rest' ts ts' →
    Copies shift rest rest' (t :: ts) (t' :: ts')

variable {m : Marks} {column : Nat} {cs : List Char} {ts : List Token}

/-- The first token and the gap before it. -/
theorem Scans.uncons {t : Token} (h : Scans m column cs (t :: ts)) :
    (ts = [] ∧ IsGap cs ∧ t = ⟨.endOfLine, "", column + cs.length, !cs.isEmpty⟩) ∨
    ∃ gap c rest, cs = gap ++ c :: rest ∧ IsGap gap ∧ isGap c = false ∧
      t = ⟨(split m c rest).1, String.ofList (split m c rest).2.1, column + gap.length,
        !gap.isEmpty⟩ ∧
      Scans m (column + gap.length + (split m c rest).2.1.length) (split m c rest).2.2 ts := by
  cases h with
  | stop hg => exact .inl ⟨rfl, hg, rfl⟩
  | token hg hc h => exact .inr ⟨_, _, _, rfl, hg, hc, rfl, h⟩

theorem Scans.ne_nil (h : Scans m column cs ts) : ts ≠ [] := by
  cases h <;> simp

theorem Copies.kind_of_mem {shift : Nat} {ts ts' : List Token} (h : Copies shift [] [] ts ts') :
    ∀ t' ∈ ts', ∃ t ∈ ts, t'.kind = t.kind := by
  induction h with
  | stop => simp
  | @cons t t' ts ts' hk _ _ _ ih =>
    intro a ha
    rcases List.mem_cons.1 ha with rfl | ha
    · exact ⟨t, List.mem_cons_self .., hk⟩
    · obtain ⟨b, hb, heq⟩ := ih a ha
      exact ⟨b, List.mem_cons_of_mem _ hb, heq⟩

theorem Copies.suffix {shift : Nat} {tail tail' ts ts' : List Token}
    (h : Copies shift tail tail' ts ts') : tail <:+ ts := by
  induction h with
  | stop => exact List.suffix_refl _
  | cons _ _ _ _ ih => exact ih.trans (List.suffix_cons ..)

/-- At the place where a copy stops, only what is in its place is left. -/
theorem Copies.eq_tail {shift : Nat} {tail tail' ts' : List Token}
    (h : Copies shift tail tail' tail ts') : ts' = tail' := by
  cases h with
  | stop => rfl
  | cons _ _ _ h =>
    have := h.suffix.length_le
    rw [List.length_cons] at this
    omega

/-- Before the place where a copy stops, the first tokens correspond. -/
theorem Copies.uncons {shift : Nat} {tail tail' ts ts' : List Token} {t : Token}
    (h : Copies shift tail tail' (t :: ts) ts') (hs : tail <:+ ts) :
    ∃ t' us, ts' = t' :: us ∧ t'.kind = t.kind ∧ t'.content = t.content ∧
      t.column = t'.column + shift ∧ Copies shift tail tail' ts us := by
  cases h with
  | stop =>
    have := hs.length_le
    rw [List.length_cons] at this
    omega
  | cons h₁ h₂ h₃ h => exact ⟨_, _, rfl, h₁, h₂, h₃, h⟩

theorem Copies.append {shift : Nat} {tail tail' ts ts' : List Token}
    (h : Copies shift [] [] ts ts') : Copies shift tail tail' (ts ++ tail) (ts' ++ tail') := by
  induction h with
  | stop => exact .stop
  | cons h₁ h₂ h₃ _ ih => exact .cons h₁ h₂ h₃ ih

/-- The tokens lie within the text. -/
theorem Scans.column_le (h : Scans m column cs ts) :
    ∀ t ∈ ts, t.column ≤ column + cs.length := by
  induction h with
  | stop _ => simp
  | @token column gap c rest ts _ _ _ ih =>
    intro t ht
    have hlen := congrArg List.length (split_append m c rest)
    simp only [List.length_append, List.length_cons] at hlen ⊢
    rcases List.mem_cons.1 ht with rfl | ht
    · simp only
      omega
    · have := ih t ht
      omega

/-- The last token stands behind all characters. -/
theorem Scans.column_last {last : Token} (h : Scans m column cs (ts ++ [last])) :
    last.column = column + cs.length := by
  induction ts generalizing column cs with
  | nil =>
    rcases Scans.uncons h with ⟨-, -, rfl⟩ | ⟨_, _, _, _, _, _, _, hnil⟩
    · rfl
    · exact absurd rfl hnil.ne_nil
  | cons t ts ih =>
    rcases Scans.uncons h with ⟨hnil, -, -⟩ | ⟨gap, c, rest, rfl, -, -, -, hrest⟩
    · simp at hnil
    · have hlen := congrArg List.length (split_append m c rest)
      simp only [List.length_append, List.length_cons] at hlen ⊢
      rw [ih hrest]
      omega

/-- Some first tokens can be left out, with the gap behind them. -/
theorem Scans.drop {pre : List Token} {t : Token} (h : Scans m column cs (pre ++ t :: ts))
    (ht : t.kind ≠ .endOfLine) :
    ∃ before c rest, cs = before ++ c :: rest ∧ t.column = column + before.length ∧
      Scans m t.column (c :: rest) ({ t with afterGap := false } :: ts) := by
  induction pre generalizing column cs with
  | nil =>
    rcases h.uncons with ⟨-, -, rfl⟩ | ⟨gap, c, rest, rfl, hg, hc, rfl, hrest⟩
    · exact absurd rfl ht
    · have hnil : IsGap [] := by simp [IsGap]
      exact ⟨gap, c, rest, rfl, rfl, Scans.token hnil hc hrest⟩
  | cons t' pre ih =>
    rcases Scans.uncons h with ⟨hnil, -, -⟩ | ⟨gap, c, rest, rfl, hg, hc, rfl, hrest⟩
    · simp at hnil
    · obtain ⟨before, c', rest', heq, hcol, hs⟩ := ih hrest
      refine ⟨gap ++ ((split m c rest).2.1 ++ before), c', rest', ?_, ?_, hs⟩
      · rw [← split_append m c rest, heq]
        simp
      · rw [hcol]
        simp only [List.length_append]
        omega

/-- Some last tokens can be cut off, and the others start in any column `start`. -/
theorem Scans.cutBehind {seg : List Token} {r : Token} (h : Scans m column cs (seg ++ r :: ts))
    (start : Nat) :
    ∃ part gap after seg', cs = part ++ (gap ++ after) ∧ IsGap gap ∧
      r.column = column + part.length + gap.length ∧
      (∀ shift, column = start + shift → Copies shift [] [] seg seg') ∧
      Scans m start part (seg' ++ [⟨.endOfLine, "", start + part.length, false⟩]) := by
  induction seg generalizing column cs start with
  | nil =>
    have hnil : IsGap [] := by simp [IsGap]
    have hstop : Scans m start [] [⟨.endOfLine, "", start, false⟩] := Scans.stop hnil
    rcases h.uncons with ⟨-, hg, rfl⟩ | ⟨gap, c, rest, rfl, hg, hc, rfl, hrest⟩
    · exact ⟨[], cs, [], [], by simp, hg, rfl, fun _ _ => .stop, hstop⟩
    · exact ⟨[], gap, c :: rest, [], rfl, hg, rfl, fun _ _ => .stop, hstop⟩
  | cons t seg ih =>
    rcases Scans.uncons h with ⟨hnil, -, -⟩ | ⟨gap, c, rest, rfl, hg, hc, rfl, hrest⟩
    · simp at hnil
    · obtain ⟨part, gap', after, seg', heq, hg', hcol, hcopy, hs⟩ :=
        ih hrest (start + gap.length + (split m c rest).2.1.length)
      -- the token is the same in front of what is left behind it
      obtain ⟨rest', hcons, hsplit⟩ := split_of_prefix (m := m) ⟨_, heq.symm⟩
      have hlen := congrArg List.length hcons
      simp only [List.length_cons, List.length_append] at hlen
      refine ⟨gap ++ c :: rest', gap', after, ?_, ?_, hg', ?_, fun shift hshift => ?_, ?_⟩
      · exact ⟨(split m c rest).1, String.ofList (split m c rest).2.1, start + gap.length,
          !gap.isEmpty⟩ :: seg'
      · rw [hcons, ← split_append m c rest, heq]
        simp
      · rw [hcol, List.length_append, List.length_cons]
        omega
      · exact .cons rfl rfl (by simp only; omega) (hcopy shift (by omega))
      · have hend : start + (gap ++ c :: rest').length =
            start + gap.length + (split m c rest).2.1.length + part.length := by
          rw [List.length_append, List.length_cons]
          omega
        rw [hend]
        exact Scans.token_of_split hg hc hsplit hs

/-- With no gap before the end, known tokens end in ink. -/
theorem Scans.endsInInk (hm : Inked m) {last : Token} (h : Scans m column cs (ts ++ [last]))
    (hl : last.afterGap = false) (hk : ∀ t ∈ ts, t.kind ≠ .unknown) : EndsInInk cs := by
  induction ts generalizing column cs with
  | nil =>
    rcases Scans.uncons h with ⟨-, -, rfl⟩ | ⟨_, _, _, _, _, _, _, hnil⟩
    · obtain rfl : cs = [] := by simpa using hl
      exact fun c hc => by cases hc
    · exact absurd rfl hnil.ne_nil
  | cons t ts ih =>
    rcases Scans.uncons h with ⟨hnil, -, -⟩ | ⟨gap, c, rest, rfl, hg, hc, rfl, hrest⟩
    · simp at hnil
    · have hink := split_endsInInk hm (c := c) (hk _ (List.mem_cons_self ..))
      have hafter := ih hrest fun t ht => hk t (List.mem_cons_of_mem _ ht)
      rw [← split_append m c rest]
      by_cases hnil : (split m c rest).2.2 = []
      · rw [hnil, List.append_nil]
        refine hink.behind fun hword => ?_
        have := split_append m c rest
        rw [hnil, hword] at this
        cases this
      · exact (hafter.behind hnil).behind (by simp [hnil])

/-- A part of a text, its own tokens, and what is around it: `seg` are the tokens of the part
within the text, and `next` is the one behind it. -/
structure Part (m : Marks) (text : String) (seg : List Token) (next : Token) where
  before : List Char
  part : List Char
  gap : List Char
  after : List Char
  tokens : List Token
  text_eq : text.toList = before ++ (part ++ (gap ++ after))
  isGap : IsGap gap
  endsInInk : EndsInInk part
  first_column : ∀ t ∈ seg.head?, t.column = before.length
  next_column : next.column = before.length + part.length + gap.length
  copies : Copies before.length [] [] seg tokens
  scans : Scans m 0 part (tokens ++ [⟨.endOfLine, "", part.length, false⟩])

/-- The end of a part. -/
def Part.last {text : String} {seg : List Token} {next : Token} (p : Part m text seg next) :
    Token :=
  ⟨.endOfLine, "", p.part.length, false⟩

/-- The text between two columns of a part is that of the whole, so many columns further right. -/
theorem Part.slice_eq {text : String} {seg : List Token} {next : Token} (p : Part m text seg next)
    {a b : Nat} (hb : b ≤ p.part.length) :
    slice p.part a b = slice text.toList (a + p.before.length) (b + p.before.length) := by
  rw [slice, slice, p.text_eq, Nat.add_comm b, List.take_length_add_append, Nat.add_comm a,
    List.drop_length_add_append, List.take_append_of_le_length hb]

/-- The text up to the end of a part is that of the whole up to the token behind it. -/
theorem Part.slice_end {text : String} {seg : List Token} {next : Token} (p : Part m text seg next)
    {a : Nat} (ha : a ≤ p.part.length) :
    slice p.part a p.part.length = slice text.toList (a + p.before.length) next.column := by
  have hink := p.endsInInk.drop a
  have hblank : ∀ c ∈ p.gap, isBlank c = true := fun c hc => isBlank_of_isGap (p.isGap c hc)
  have hlen : next.column = p.before.length + (p.part ++ p.gap).length := by
    rw [p.next_column, List.length_append]
    omega
  have hright : (text.toList.take next.column).drop (a + p.before.length) =
      p.part.drop a ++ p.gap := by
    rw [p.text_eq, ← List.append_assoc p.part, hlen, List.take_length_add_append, Nat.add_comm a,
      List.drop_length_add_append, List.take_left, List.drop_append_of_le_length ha]
  rw [slice, slice, List.take_length, hink.trimEnd, hright, trimEnd_append hink hblank]

/-- The text of a part, cut out of the whole by its columns. -/
theorem Part.slice_text {text : String} {t : Token} {seg : List Token} {next : Token}
    (p : Part m text (t :: seg) next) :
    slice text.toList t.column next.column = String.ofList p.part := by
  have h := p.slice_end (Nat.zero_le _)
  rw [Nat.zero_add, ← p.first_column t rfl] at h
  rw [← h, slice, List.take_length, List.drop_zero, p.endsInInk.trimEnd]

theorem Part.isInfix {text : String} {seg : List Token} {next : Token} (p : Part m text seg next) :
    p.part <:+: text.toList :=
  ⟨p.before, p.gap ++ p.after, by rw [p.text_eq]; simp⟩

/-- The tokens of the text of a part. -/
theorem Part.scan {text : String} {seg : List Token} {next : Token} (p : Part m text seg next) :
    scan m (String.ofList p.part) = p.tokens ++ [p.last] :=
  scan_eq_iff.2 (by rw [String.toList_ofList]; exact p.scans)

/-- A part that is a single token has the content of that token. -/
theorem Part.single {text : String} {t next : Token} (p : Part m text [t] next) :
    String.ofList p.part = t.content := by
  obtain ⟨t', us, htokens, -, hc, hcol, hnil⟩ := p.copies.uncons (List.suffix_refl _)
  cases hnil
  have hcol' : t'.column = 0 := by
    have := p.first_column t rfl
    omega
  have hs := p.scans
  rw [htokens] at hs
  rcases hs.uncons with ⟨hnil, -, -⟩ | ⟨gap, c, rest, hpart, hg, -, rfl, hrest⟩
  · cases hnil
  · obtain rfl : gap = [] := List.length_eq_zero_iff.1 (by simpa using hcol')
    rcases hrest.uncons with ⟨-, -, hlast⟩ | ⟨_, _, _, -, -, -, -, h⟩
    · have hafter : (split m c rest).2.2 = [] := by
        simpa using (congrArg Token.afterGap hlast).symm
      have happend := split_append m c rest
      rw [hafter, List.append_nil] at happend
      rw [← hc, hpart, List.nil_append, ← happend]
    · exact absurd rfl h.ne_nil

/-- **Some tokens out of the middle** are what their own characters scan to, in other columns. -/
theorem exists_part (hm : Inked m) {text : String} {pre seg rest : List Token} {next : Token}
    (hne : seg ≠ []) (h : scan m text = pre ++ (seg ++ next :: rest))
    (hk : ∀ t ∈ seg, t.kind ≠ .endOfLine ∧ t.kind ≠ .unknown) :
    Nonempty (Part m text seg next) := by
  obtain ⟨t, seg, rfl⟩ := List.exists_cons_of_ne_nil hne
  have ht := (hk t (List.mem_cons_self ..)).1
  obtain ⟨before, c, tail, htext, hcol, hs⟩ := (scan_eq_iff.1 h).drop ht
  have hs : Scans m t.column (c :: tail)
      (({ t with afterGap := false } :: seg) ++ next :: rest) := hs
  obtain ⟨part, gap, after, tokens, heq, hg, hnext, hcopy, hpart⟩ := hs.cutBehind 0
  have hcopies : Copies before.length [] [] (t :: seg) tokens := by
    cases hcopy before.length (by omega) with
    | cons h₁ h₂ h₃ h => exact .cons h₁ h₂ h₃ h
  refine ⟨⟨before, part, gap, after, tokens, by rw [htext, heq], hg, ?_, ?_, by omega, hcopies, ?_⟩⟩
  · refine hpart.endsInInk hm rfl fun t' ht' => ?_
    obtain ⟨a, ha, heq⟩ := hcopies.kind_of_mem t' ht'
    rw [heq]
    exact (hk a ha).2
  · intro a ha
    obtain rfl : t = a := by simpa using ha
    omega
  · simpa using hpart

end Token
end QuantityCalculus
