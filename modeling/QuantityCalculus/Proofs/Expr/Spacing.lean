/-
# Spacing

Spaces and tabs keep tokens apart, and do nothing else. The longest token at some place is the same
in front of a gap, so that the contents of the tokens of a text, with any gaps between them, are a
text with the same tokens in other columns. And whoever reads them cannot tell the difference, but
for the texts of composite nodes and the columns of errors.

**Main statement.** `lexemes_decide`.
-/

import QuantityCalculus.Proofs.Expr.Words

namespace QuantityCalculus
namespace Token

variable {column : Nat} {cs : List Char} {ts : List Token} {gaps : List (List Char)}

/-- Contents with a gap in front of each of them. -/
def joined (gaps : List (List Char)) (contents : List String) : List Char :=
  (gaps.zip contents).flatMap fun g => g.1 ++ g.2.toList

/-- Runs of spaces and tabs for the gaps in front of some tokens, the last of which stands for the
end. In front of the first token and of the end there may be nothing. -/
structure Separates (gaps : List (List Char)) (ts : List Token) : Prop where
  length : gaps.length = ts.length
  isGap : ∀ g ∈ gaps, IsGap g
  ne_nil : ∀ g ∈ gaps.tail.dropLast, g ≠ []

/-- In front of a gap, a token that was taken off is taken off again. -/
theorem fits_split {c : Char} (rest : List Char) {follow : List Char} (hc : isGap c = false)
    (h : ∀ d ∈ follow.head?, isGap d = true) :
    Fits (split .standard c rest).1 (split .standard c rest).2.1 follow := by
  have hprefix : [] <+: (split .standard c rest).2.2 := List.nil_prefix
  obtain ⟨rest', hcons, hsplit⟩ := split_of_prefix hprefix
  rw [List.append_nil] at hcons
  refine ⟨c, rest', hcons.symm, hc, ?_⟩
  rw [split_append_of_gap c rest' h, hsplit, List.nil_append]

/-- Behind a token, what is joined starts with a gap, if it does not end there. -/
theorem isGap_of_head_joined (h : Scans .standard column cs ts) (hlength : gaps.length = ts.length)
    (hgap : ∀ g ∈ gaps, IsGap g) (hne : ∀ g ∈ gaps.dropLast, g ≠ []) :
    ∀ c ∈ (joined gaps (ts.map content)).head?, isGap c = true := by
  intro c hc
  cases h with
  | stop hg =>
    obtain ⟨g, rfl⟩ := List.length_eq_one_iff.1 hlength
    have hc : c ∈ g.head? := by simpa [joined] using hc
    exact hgap g (List.mem_singleton_self g) c (List.mem_of_mem_head? hc)
  | token hg _ hrest =>
    obtain ⟨t, ts, rfl⟩ := List.exists_cons_of_ne_nil hrest.ne_nil
    match gaps, hlength with
    | g :: g' :: gs, _ =>
      obtain ⟨d, g, rfl⟩ := List.exists_cons_of_ne_nil (hne g (List.mem_cons_self ..))
      obtain rfl : d = c := by simpa [joined] using hc
      exact hgap _ (List.mem_cons_self ..) d (List.mem_cons_self ..)

/-- **Tokens keep apart.** The contents of tokens, with gaps between them, scan to the same tokens
again. -/
theorem Scans.lexes_joined (h : Scans .standard column cs ts) (hs : Separates gaps ts) :
    Lexes (joined gaps (ts.map content)) (ts.map lexeme) := by
  induction h generalizing gaps with
  | stop _ =>
    obtain ⟨g, rfl⟩ := List.length_eq_one_iff.1 hs.length
    simpa [joined, lexeme] using lexes_nil.gap (hs.isGap g (List.mem_singleton_self g))
  | @token column gap c rest ts hg hc hrest ih =>
    cases gaps with
    | nil => cases hs.length
    | cons g gs =>
      have hlength : gs.length = ts.length := Nat.succ.inj hs.length
      have hgap : ∀ g ∈ gs, IsGap g := fun g' hg' => hs.isGap g' (List.mem_cons_of_mem g hg')
      have hne : ∀ g ∈ gs.dropLast, g ≠ [] := hs.ne_nil
      have hfits := fits_split rest hc (isGap_of_head_joined hrest hlength hgap hne)
      have hafter := ih ⟨hlength, hgap, fun g' hg' => hne g' ?_⟩
      · have hall := (hafter.token hfits).gap (hs.isGap g (List.mem_cons_self ..))
        simpa [joined, lexeme] using hall
      · rw [← List.tail_dropLast] at hg'
        exact List.mem_of_mem_tail hg'

end Token

namespace Expr

open Token

/-- An error that is the same in the first column is the same in some column. -/
theorem eq_at_of_at {s s' : SyntaxError} (h : s'.at 0 = s.at 0) : ∃ column, s' = s.at column := by
  cases s' with
  | nothing | tooDeep =>
    cases s <;> cases h
    exact ⟨0, rfl⟩
  | unrecognized c | unclosed c | missingColon c =>
    cases s <;> cases h
    exact ⟨c, rfl⟩

/-- **Reading depends on lexemes and on which words are units.** With a comma between arguments and
a point before fractions: the contents of the tokens of a text, with any gaps between them, are a
text with the same lexemes; and two texts with the same lexemes, whose words are units for both or
for neither, both stand for an expression, the same but for the contents of composite nodes, or for
none, for the same reason in perhaps another column. -/
theorem lexemes_decide :
    (∀ text gaps, Separates gaps (scan .standard text) →
      (scan .standard (String.ofList (joined gaps ((scan .standard text).map Token.content)))).map
        lexeme = (scan .standard text).map lexeme) ∧
    ∀ (d : Nat) (text text' : String) (isUnit isUnit' : String → Bool),
      (scan .standard text').map lexeme = (scan .standard text).map lexeme →
      (∀ w ∈ words .standard text, isUnit' w = isUnit w) →
      (∃ e e', readWithin d .standard isUnit text = .ok e ∧
        readWithin d .standard isUnit' text' = .ok e' ∧ e'.erase = e.erase) ∨
      ∃ s column, readWithin d .standard isUnit text = .error s ∧
        readWithin d .standard isUnit' text' = .error (s.at column) := by
  refine ⟨fun text gaps hs => ?_, fun d text text' isUnit isUnit' hlexemes hunits => ?_⟩
  · have hscans : Scans .standard 0 text.toList (scan .standard text) := scan_eq_iff.1 rfl
    obtain ⟨ts, hts, hlexemes⟩ := hscans.lexes_joined hs 0
    have hscan :
        scan .standard (String.ofList (joined gaps ((scan .standard text).map Token.content))) = ts :=
      scan_eq_iff.2 (by rwa [String.toList_ofList])
    rw [hscan, hlexemes]
  · have hpaired : Paired False ⟨text.toList, isUnit⟩ ⟨text'.toList, isUnit'⟩
        (scan .standard text) (scan .standard text') :=
      { lexemes := hlexemes
        units := fun t ht hk => hunits t.content (mem_words ht hk)
        tokens := False.elim
        text := False.elim }
    unfold readWithin
    have hends := paired_ofTokens (d := d) hpaired
    revert hends
    generalize ofTokens ⟨text.toList, isUnit⟩ d (scan .standard text) = x
    generalize ofTokens ⟨text'.toList, isUnit'⟩ d (scan .standard text') = y
    rintro (h | ⟨hs, -⟩)
    · exact .inl ⟨_, _, rfl, rfl, h.erase⟩
    · obtain ⟨column, rfl⟩ := eq_at_of_at hs
      exact .inr ⟨_, column, rfl, rfl⟩

/-- The texts `2*m` and `2 * m`, where `m` is a unit. -/
theorem lexemes_decide_product :
    (scan .standard (String.ofList (joined [[' '], [' '], ['\t', ' '], []]
      ((scan .standard "2*m").map Token.content)))).map lexeme =
        (scan .standard "2*m").map lexeme ∧
    ((∃ e e', readWithin 250 .standard (· == "m") "2*m" = .ok e ∧
        readWithin 250 .standard (· != "x") "2 * m" = .ok e' ∧ e'.erase = e.erase) ∨
      ∃ s column, readWithin 250 .standard (· == "m") "2*m" = .error s ∧
        readWithin 250 .standard (· != "x") "2 * m" = .error (s.at column)) := by
  have hs : Separates [[' '], [' '], ['\t', ' '], []] (scan .standard "2*m") :=
    ⟨by decide +kernel, by simp [IsGap, isGap], by simp⟩
  exact ⟨lexemes_decide.1 _ _ hs,
    lexemes_decide.2 250 "2*m" "2 * m" _ _ (by decide +kernel) (by decide +kernel)⟩

end Expr
end QuantityCalculus
