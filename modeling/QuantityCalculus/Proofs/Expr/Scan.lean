/-
# Scanning as a relation

`Scans m column cs ts` says that the characters `cs`, the first of them in that column, are the
tokens `ts`: a gap and a token again and again, and then a gap and the end. The scanner with
fuel decides it, so facts about tokens go by induction on the tokens and leave the fuel alone.

**Main statements.**

* `scan_eq_iff`: the tokens of a text are those that the relation gives.
* `Scans.shape`: the last token stands for the end, and no other does.
-/

import QuantityCalculus.Expr.Token

namespace QuantityCalculus
namespace Token

open Text

/-- Whether a run of characters is a gap. -/
def IsGap (cs : List Char) : Prop := ∀ c ∈ cs, isGap c = true

/-- The tokens of some characters, the first of them in a column. -/
inductive Scans (m : Marks) : Nat → List Char → List Token → Prop
  | stop {column gap} : IsGap gap →
    Scans m column gap [⟨.endOfLine, "", column + gap.length, !gap.isEmpty⟩]
  | token {column gap c rest ts} : IsGap gap → isGap c = false →
    Scans m (column + gap.length + (split m c rest).2.1.length) (split m c rest).2.2 ts →
    Scans m column (gap ++ c :: rest)
      (⟨(split m c rest).1, String.ofList (split m c rest).2.1, column + gap.length,
        !gap.isEmpty⟩ :: ts)

variable {m : Marks} {column fuel : Nat} {c : Char} {cs gap rest : List Char} {ts : List Token}

/-- A first token whose parts are known. -/
theorem Scans.token_of_split {k : TokenKind} {word after : List Char} (hg : IsGap gap)
    (hc : isGap c = false) (hs : split m c rest = (k, word, after))
    (h : Scans m (column + gap.length + word.length) after ts) :
    Scans m column (gap ++ c :: rest)
      (⟨k, String.ofList word, column + gap.length, !gap.isEmpty⟩ :: ts) := by
  have htoken : Scans m column (gap ++ c :: rest)
      (⟨(split m c rest).1, String.ofList (split m c rest).2.1, column + gap.length,
        !gap.isEmpty⟩ :: ts) := .token hg hc (by rw [hs]; exact h)
  rwa [hs] at htoken

/-! ### The first token, by its first character -/

theorem split_separator (hs : m.separator = some c) : split m c rest = (.separator, [c], rest) := by
  rw [split, if_pos hs]

theorem split_letter (hs : m.separator ≠ some c) (hl : isLetter c = true) :
    split m c rest = (.word, c :: (takeRun isWordChar rest).1, (takeRun isWordChar rest).2) := by
  rw [split, if_neg hs, if_pos hl]

theorem split_digit (hs : m.separator ≠ some c) (hl : isLetter c = false)
    (hd : isDigit c = true) : split m c rest = (.scalar, takeNumber m (c :: rest)) := by
  simp [split, hs, hl, hd]

theorem split_unknown (hs : m.separator ≠ some c) (hl : isLetter c = false)
    (hd : isDigit c = false) (ho : single? c = none) : split m c rest = (.unknown, [c], rest) := by
  simp [split, hs, hl, hd, ho]

theorem split_long {d : Char} {k long : TokenKind} (hs : m.separator ≠ some c)
    (hl : isLetter c = false) (hd : isDigit c = false) (ho : single? c = some k)
    (h2 : double? c d = some long) : split m c (d :: rest) = (long, [c, d], rest) := by
  simp [split, hs, hl, hd, ho, h2]

theorem split_short {k : TokenKind} (hs : m.separator ≠ some c) (hl : isLetter c = false)
    (hd : isDigit c = false) (ho : single? c = some k)
    (h2 : ∀ d ∈ rest.head?, double? c d = none) : split m c rest = (k, [c], rest) := by
  cases rest with
  | nil => simp [split, hs, hl, hd, ho]
  | cons d rest => simp [split, hs, hl, hd, ho, h2 d rfl]

/-- An operator has two characters if it can. -/
theorem split_operator {k : TokenKind} (rest : List Char) (hs : m.separator ≠ some c)
    (hl : isLetter c = false) (hd : isDigit c = false) (ho : single? c = some k) :
    (∃ d long tail, rest = d :: tail ∧ double? c d = some long ∧
      split m c rest = (long, [c, d], tail)) ∨
    ((∀ d ∈ rest.head?, double? c d = none) ∧ split m c rest = (k, [c], rest)) := by
  cases rest with
  | nil => exact .inr ⟨by simp, split_short hs hl hd ho (by simp)⟩
  | cons d tail =>
    cases h2 : double? c d with
    | none =>
      have hnone : ∀ d' ∈ (d :: tail).head?, double? c d' = none := by simpa using h2
      exact .inr ⟨hnone, split_short hs hl hd ho hnone⟩
    | some long => exact .inl ⟨d, long, tail, rfl, h2, split_long hs hl hd ho h2⟩

/-! ### The scanner decides the relation -/

theorem takeRun_gap (hg : IsGap gap) (hc : isGap c = false) :
    takeRun isGap (gap ++ c :: rest) = (gap, c :: rest) := by
  simp [takeRun, List.takeWhile_append_of_pos hg, List.dropWhile_append_of_pos hg, hc]

/-- A run takes characters that are all of its class. -/
theorem takeRun_of_forall {p : Char → Bool} (h : ∀ c ∈ cs, p c = true) :
    takeRun p cs = (cs, []) := by
  have htake : (cs ++ []).takeWhile p = cs ++ [].takeWhile p := List.takeWhile_append_of_pos h
  have hdrop : (cs ++ []).dropWhile p = [].dropWhile p := List.dropWhile_append_of_pos h
  rw [List.append_nil] at htake hdrop
  simp [takeRun, htake, hdrop]

/-- Characters start with a gap, and a token may follow it. -/
theorem exists_gap (cs : List Char) :
    IsGap cs ∨ ∃ gap c rest, cs = gap ++ c :: rest ∧ IsGap gap ∧ isGap c = false := by
  induction cs with
  | nil => exact .inl (by simp [IsGap])
  | cons c cs ih =>
    cases hc : isGap c with
    | false => exact .inr ⟨[], c, cs, rfl, by simp [IsGap], hc⟩
    | true =>
      rcases ih with hg | ⟨gap, c', rest, rfl, hg, hc'⟩
      · exact .inl (by simpa [IsGap, hc] using hg)
      · exact .inr ⟨c :: gap, c', rest, rfl, by simpa [IsGap, hc] using hg, hc'⟩

/-- A token has at least one character. -/
theorem split_length (m : Marks) (c : Char) (rest : List Char) :
    (split m c rest).2.2.length ≤ rest.length := by
  have h := congrArg List.length (split_append m c rest)
  have hne : (split m c rest).2.1 ≠ [] := by
    unfold split
    split
    · simp
    · split
      · simp
      · split
        · rename_i hd
          simp [takeNumber, takeRun, hd]
        · split
          · simp
          · split
            · simp
            · split <;> simp
  have := List.length_pos_iff.2 hne
  simp only [List.length_append, List.length_cons] at h
  omega

theorem Scans.scanFrom (h : Scans m column cs ts) (hf : cs.length ≤ fuel) :
    scanFrom m fuel column cs = ts := by
  induction h generalizing fuel with
  | stop hg =>
    unfold Token.scanFrom
    simp [takeRun_of_forall hg]
  | @token column gap c rest ts hg hc _ ih =>
    obtain ⟨fuel, rfl⟩ : ∃ k, fuel = k + 1 := ⟨fuel - 1, by simp at hf; omega⟩
    have := split_length m c rest
    have hlen : (split m c rest).2.2.length ≤ fuel := by simp at hf; omega
    have ih := ih hlen
    unfold Token.scanFrom
    simp only [takeRun_gap hg hc, ih]

theorem scans_scanFrom (hf : cs.length ≤ fuel) :
    Scans m column cs (scanFrom m fuel column cs) := by
  induction fuel generalizing column cs with
  | zero =>
    obtain rfl : cs = [] := List.length_eq_zero_iff.1 (Nat.le_zero.1 hf)
    exact .stop (by simp [IsGap])
  | succ fuel ih =>
    rcases exists_gap cs with hg | ⟨gap, c, rest, rfl, hg, hc⟩
    · have h : Scans m column cs _ := .stop hg
      rwa [← h.scanFrom hf] at h
    · have := split_length m c rest
      have hlen : (split m c rest).2.2.length ≤ fuel := by simp at hf; omega
      have h : Scans m column (gap ++ c :: rest) _ := .token hg hc (ih hlen)
      rwa [← h.scanFrom hf] at h

/-- **The tokens of a text** are those that the relation gives. -/
theorem scan_eq_iff {text : String} : scan m text = ts ↔ Scans m 0 text.toList ts := by
  constructor
  · rintro rfl
    exact scans_scanFrom (Nat.le_refl _)
  · exact fun h => h.scanFrom (Nat.le_refl _)

/-! ### The end -/

theorem single?_ne_endOfLine {k : TokenKind} (h : single? c = some k) : k ≠ .endOfLine := by
  rintro rfl
  unfold single? at h
  split at h <;> cases h

theorem double?_ne_endOfLine {d : Char} {k : TokenKind} (h : double? c d = some k) :
    k ≠ .endOfLine := by
  rintro rfl
  unfold double? at h
  split at h <;> cases h

/-- A token that has characters is not the end. -/
theorem split_kind_ne_endOfLine (m : Marks) (c : Char) (rest : List Char) :
    (split m c rest).1 ≠ .endOfLine := by
  unfold split
  split
  · simp
  · split
    · simp
    · split
      · simp
      · split
        · simp
        · rename_i hs
          split
          · exact single?_ne_endOfLine hs
          · split
            · rename_i hd
              exact double?_ne_endOfLine hd
            · exact single?_ne_endOfLine hs

/-- **The last token stands for the end,** and no other does. -/
theorem Scans.shape (h : Scans m column cs ts) :
    ∃ body last, ts = body ++ [last] ∧ last.kind = .endOfLine ∧
      ∀ t ∈ body, t.kind ≠ .endOfLine := by
  induction h with
  | stop _ => exact ⟨[], _, rfl, rfl, by simp⟩
  | @token column gap c rest ts _ _ _ ih =>
    obtain ⟨body, last, rfl, hl, hb⟩ := ih
    refine ⟨_ :: body, last, rfl, hl, fun t ht => ?_⟩
    rcases List.mem_cons.1 ht with rfl | ht
    · exact split_kind_ne_endOfLine m c rest
    · exact hb t ht

end Token
end QuantityCalculus
