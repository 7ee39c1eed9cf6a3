/-
# Errors stand at the first token that cannot be right

A text that is no expression fails at a column, unless there is nothing in it or it is nested too
deeply. The tokens in front of that column are the beginning of an expression, and no expression
begins with them and the token at the column. Where that is the end of the text, the tokens in
front of it are no expression yet.

Whether tokens are an expression depends on their lexemes only (`Accepts`), so what is completed
and what is refused are rows of lexemes. A completion needs no more than zeros, closing parentheses
and colons, and no greater depth.

**Main statement.** `readWithin_error_column`: where an error stands, for any marks and any unit
words.
-/

import QuantityCalculus.Proofs.Expr.Acceptance
import QuantityCalculus.Proofs.Expr.PromptReaders

namespace QuantityCalculus

namespace Token

variable {m : Marks} {column : Nat} {cs : List Char} {ts : List Token}

/-- Every token stands behind the one before it. -/
theorem Scans.pairwise_column (h : Scans m column cs ts) :
    (∀ t ∈ ts, column ≤ t.column) ∧ ts.Pairwise fun t u => t.column < u.column := by
  induction h with
  | stop _ => simp
  | @token column gap c rest ts _ _ _ ih =>
    have hlen := congrArg List.length (split_append m c rest)
    have hrest := split_length m c rest
    simp only [List.length_append, List.length_cons] at hlen
    refine ⟨fun t ht => ?_, List.pairwise_cons.2 ⟨fun u hu => ?_, ih.2⟩⟩
    · rcases List.mem_cons.1 ht with rfl | ht
      · exact Nat.le_add_right column gap.length
      · have := ih.1 t ht
        omega
    · have := ih.1 u hu
      simp only
      omega

/-- The end has no characters. -/
theorem Scans.content_end (h : Scans m column cs ts) :
    ∀ t ∈ ts, t.kind = .endOfLine → t.content = "" := by
  induction h with
  | stop _ => simp
  | @token _ _ c rest _ _ _ _ ih =>
    intro t ht hk
    rcases List.mem_cons.1 ht with rfl | ht
    · exact absurd hk (split_kind_ne_endOfLine m c rest)
    · exact ih t ht hk

end Token

namespace Expr

variable {src src' : Source} {depth depth' : Nat} {err : SyntaxError} {e : Expr}
  {ts ts' w stop rest : List Token}

/-- The tokens with these lexemes, and the end behind them, are read at a depth as an expression of
some text. -/
def Accepts (isUnit : String → Bool) (depth : Nat) (lexemes : List (TokenKind × String)) : Prop :=
  ∃ text ts e, ts.map Token.lexeme = lexemes ++ [(.endOfLine, "")] ∧
    ofTokens ⟨text, isUnit⟩ depth ts = .ok e

/-- An expression and the end behind it. -/
theorem exists_ofTokens_iff : (∃ e, ofTokens src depth ts = .ok e) ↔
    ∃ e rest, (readers src depth).assignment ts = .ok (e, rest) ∧ kindOf rest = .endOfLine := by
  constructor
  · rintro ⟨e, h⟩
    obtain ⟨k, rest, rfl, hr, hend⟩ := ofTokens_eq_ok_iff.1 h
    exact ⟨e, rest, hr.evaluates, hend⟩
  · rintro ⟨e, rest, h, hend⟩
    obtain ⟨k, rfl, hr⟩ := (sound src depth).assignment h
    exact ⟨e, ofTokens_eq_ok_iff.2 ⟨k, rest, rfl, hr, hend⟩⟩

/-- **What is accepted depends on the lexemes,** and greater depths accept no less. -/
theorem ofTokens_of_sameLexemes (ha : Above src depth src' depth') (hs : SameLexemes ts ts')
    (h : ∃ e, ofTokens src depth ts = .ok e) : ∃ e, ofTokens src' depth' ts' = .ok e := by
  obtain ⟨e, rest, hr, hend⟩ := exists_ofTokens_iff.1 h
  obtain ⟨w, rfl, hw⟩ := ((promptInner src depth).assignment ts).passes (x := ()) hr
  obtain ⟨w', rest', rfl, hw', hrest⟩ := hs.exists_append
  obtain ⟨e', he'⟩ := hw (x := ()) ha hw' (.inl hrest.same_start)
  exact exists_ofTokens_iff.2 ⟨e', rest', he', hrest.same_start.kindOf.trans hend⟩

/-- The tokens of a text are accepted where the text is read. -/
theorem accepts_sentenceOf_iff {isUnit : String → Bool} {marks : Marks} {text : String} :
    Accepts isUnit depth ((sentenceOf marks text).map Token.lexeme) ↔
      ∃ e, readWithin depth marks isUnit text = .ok e := by
  obtain ⟨last, hscan, hl⟩ := sentenceOf_append marks text
  have hscans : Token.Scans marks 0 text.toList (Token.scan marks text) := Token.scan_eq_iff.1 rfl
  have hlast : last.lexeme = (.endOfLine, "") :=
    Prod.ext hl (hscans.content_end last (hscan ▸ by simp) hl)
  have hlexemes : (Token.scan marks text).map Token.lexeme =
      (sentenceOf marks text).map Token.lexeme ++ [(.endOfLine, "")] := by
    rw [hscan, List.map_append, List.map_singleton, hlast]
  constructor
  · rintro ⟨text', ts, e, hts, he⟩
    have habove : Above ⟨text', isUnit⟩ depth ⟨text.toList, isUnit⟩ depth :=
      ⟨rfl, Nat.le_refl depth⟩
    exact ofTokens_of_sameLexemes habove (hlexemes.trans hts.symm) ⟨e, he⟩
  · rintro ⟨e, he⟩
    exact ⟨text.toList, Token.scan marks text, e, hlexemes, he⟩

/-- What is read has no end inside it. -/
theorem proper_of_assignment (h : (readers src depth).assignment (w ++ rest) = .ok (e, rest)) :
    ∀ t ∈ w, Proper t := by
  obtain ⟨k, -, hr⟩ := (sound src depth).assignment h
  obtain ⟨seg, -, heq, hp⟩ := hr.consumed
  obtain rfl := List.append_cancel_right heq
  exact hp

/-- Tokens that start with `w` and one like the first one of `stop` are no expression, at this depth
or a greater one. -/
def Rejects (src : Source) (depth : Nat) (w stop : List Token) : Prop :=
  ∀ ⦃src' depth' w' stop'⦄, Above src depth src' depth' → SameLexemes w w' →
    StartAlike stop stop' → ¬ ∃ e, ofTokens src' depth' (w' ++ stop') = .ok e

/-- **Where tokens are refused.** Those in front of the column are completed by fillers, and no
tokens that start with them and with one like that at the column are accepted. -/
theorem ofTokens_error {column : Nat} (h : ofTokens src depth ts = .error err)
    (hcol : err.column? = some column) :
    ∃ w stop, ts = w ++ stop ∧ columnOf stop = column ∧ (∀ t ∈ w, Proper t) ∧
      (∃ c, Fills c ∧ ∀ last : Token, last.kind = .endOfLine →
        ∃ e, ofTokens src depth (w ++ c ++ [last]) = .ok e) ∧
      Rejects src depth w stop := by
  have hprompt := (promptInner src depth).assignment ts
  have hlast : ∀ {last : Token}, last.kind = .endOfLine → Halts [last] := fun hl => by
    simp [Halts, haltingKinds, hl]
  unfold ofTokens at h
  split at h
  · cases h
    cases hcol
  rcases Except.bind_eq_error h with hf | ⟨⟨e, rest⟩, hr, h⟩
  · have hne : err ≠ .tooDeep := by
      rintro rfl
      cases hcol
    obtain ⟨w, stop, rfl, hstop, ⟨c, hc, hp⟩, hrefuse⟩ := hprompt.fails (x := ()) hf hne
    refine ⟨w, stop, rfl, Option.some.inj (hstop.symm.trans hcol), fun t ht => ?_,
      ⟨c, hc, fun last hl => ?_⟩, fun src' depth' w' stop' ha hs hst => ?_⟩
    · obtain ⟨e, he⟩ := hp (x := ()) (.refl src depth) (.refl _) halts_nil
      exact proper_of_assignment he t (List.mem_append_left c ht)
    · obtain ⟨e, he⟩ := hp (x := ()) (.refl src depth) (.refl _) (hlast hl)
      exact exists_ofTokens_iff.2 ⟨e, [last], he, hl⟩
    · rw [exists_ofTokens_iff]
      rintro ⟨e, rest, he, -⟩
      obtain ⟨err', herr⟩ := hrefuse (x := ()) ha hs hst
      cases herr.symm.trans he
  · dsimp only at h
    split at h
    · cases h
    rename_i hend
    cases h
    obtain ⟨w, rfl, hw⟩ := hprompt.passes (x := ()) hr
    refine ⟨w, rest, rfl, Option.some.inj hcol, proper_of_assignment hr,
      ⟨[], fun _ ht => absurd ht List.not_mem_nil, fun last hl => ?_⟩,
      fun src' depth' w' stop' ha hs hst => ?_⟩
    · rw [List.append_nil]
      obtain ⟨e, he⟩ := hw (x := ()) (.refl src depth) (.refl w) (.inr (hlast hl))
      exact exists_ofTokens_iff.2 ⟨e, [last], he, hl⟩
    · rw [exists_ofTokens_iff]
      rintro ⟨e', rest', he', hend'⟩
      obtain ⟨e, he⟩ := hw (x := ()) ha hs (.inl hst)
      cases he'.symm.trans he
      exact hend (hst.kindOf ▸ hend')

/-- What is rejected is accepted at no depth, however it goes on. -/
theorem Rejects.not_accepts {t : Token} {after : List Token}
    {lexemes more : List (TokenKind × String)} (h : Rejects src depth w (t :: after))
    (hl : lexemes ++ [(.endOfLine, "")] = w.map Token.lexeme ++ t.lexeme :: more) :
    ¬ Accepts src.isUnit depth' lexemes := by
  rintro ⟨text, ts, e, hts, he⟩
  rw [hl] at hts
  obtain ⟨w', stop', rfl, hw', hstop'⟩ := List.map_eq_append_iff.1 hts
  obtain ⟨t', tail', rfl, ht', -⟩ := List.map_eq_cons_iff.1 hstop'
  -- the tokens are read at the greater one of both depths
  have hdeep : Above ⟨text, src.isUnit⟩ depth' ⟨text, src.isUnit⟩ (max depth depth') :=
    ⟨rfl, Nat.le_max_right depth depth'⟩
  have hread := ofTokens_of_sameLexemes hdeep (.refl _) ⟨e, he⟩
  have hup : Above src depth ⟨text, src.isUnit⟩ (max depth depth') :=
    ⟨rfl, Nat.le_max_left depth depth'⟩
  exact h hup hw' (startAlike_cons ht') hread

/-- **Errors stand at the first token that cannot be right.** Where a text fails at a column, there
is one token `t` at it. The tokens before it are completed to an accepted row by zeros, closing
parentheses and colons, without a greater depth. At no depth an accepted row starts with them and
`t`; where `t` is the end of the text, they are not accepted themselves. -/
theorem readWithin_error_column {depth : Nat} {marks : Marks} {isUnit : String → Bool}
    {text : String} {err : SyntaxError} {column : Nat}
    (h : readWithin depth marks isUnit text = .error err) (hcol : err.column? = some column) :
    ∃ before t after, Token.scan marks text = before ++ t :: after ∧ t.column = column ∧
      (∀ u ∈ before ++ after, u.column ≠ column) ∧
      (∃ completion, (∀ l ∈ completion, l ∈ fillers) ∧
        Accepts isUnit depth (before.map Token.lexeme ++ completion)) ∧
      (∀ depth' more, ¬ Accepts isUnit depth' (before.map Token.lexeme ++ t.lexeme :: more)) ∧
      (t.kind = .endOfLine → ∀ depth', ¬ Accepts isUnit depth' (before.map Token.lexeme)) := by
  obtain ⟨w, stop, hts, hstop, hproper, ⟨c, hc, hp⟩, hrejects⟩ := ofTokens_error h hcol
  have hscans : Token.Scans marks 0 text.toList (Token.scan marks text) := Token.scan_eq_iff.1 rfl
  obtain ⟨t, after, rfl⟩ : ∃ t after, stop = t :: after := by
    obtain ⟨body, last, heq, hl, -⟩ := hscans.shape
    refine List.exists_cons_of_ne_nil fun hnil => ?_
    have hmem : last ∈ w := by
      rw [← List.append_nil w, ← hnil, ← hts, heq]
      simp
    exact (hproper last hmem).1 hl
  refine ⟨w, t, after, hts, hstop, fun u hu => ?_, ⟨c.map Token.lexeme, fun l hl => ?_, ?_⟩,
    fun depth' more => ?_, fun hk depth' => ?_⟩
  · have hpair := hscans.pairwise_column.2
    rw [hts, List.pairwise_append, List.pairwise_cons] at hpair
    obtain ⟨-, ⟨hafter, -⟩, hbefore⟩ := hpair
    rw [← hstop, columnOf_cons]
    rcases List.mem_append.1 hu with hu | hu
    · exact Nat.ne_of_lt (hbefore u hu t (List.mem_cons_self ..))
    · exact Nat.ne_of_gt (hafter u hu)
  · obtain ⟨t, ht, rfl⟩ := List.mem_map.1 hl
    exact hc t ht
  · obtain ⟨e, he⟩ := hp ⟨.endOfLine, "", 0, false⟩ rfl
    exact ⟨_, _, e, by simp [Token.lexeme], he⟩
  · exact hrejects.not_accepts (List.append_assoc _ (t.lexeme :: more) _)
  · have hmem : t ∈ Token.scan marks text := hts ▸ by simp
    have heq : t.lexeme = (.endOfLine, "") := Prod.ext hk (hscans.content_end t hmem hk)
    have hrow : w.map Token.lexeme ++ [(.endOfLine, "")] = w.map Token.lexeme ++ [t.lexeme] := by
      rw [heq]
    exact hrejects.not_accepts hrow

/-- A parenthesis that is not closed fails at the end of the text. -/
theorem readWithin_unclosed_column :
    readWithin deepest .standard (· == "m") "(1 m + 2" = .error (.unclosed 8) ∧
    (SyntaxError.unclosed 8).column? = some 8 ∧
    ∃ before t after, Token.scan .standard "(1 m + 2" = before ++ t :: after ∧ t.column = 8 ∧
      (∀ u ∈ before ++ after, u.column ≠ 8) ∧
      (∃ completion, (∀ l ∈ completion, l ∈ fillers) ∧
        Accepts (· == "m") deepest (before.map Token.lexeme ++ completion)) ∧
      (∀ depth' more, ¬ Accepts (· == "m") depth' (before.map Token.lexeme ++ t.lexeme :: more)) ∧
      (t.kind = .endOfLine → ∀ depth', ¬ Accepts (· == "m") depth' (before.map Token.lexeme)) := by
  have h : readWithin deepest .standard (· == "m") "(1 m + 2" = .error (.unclosed 8) := by
    decide +kernel
  exact ⟨h, rfl, readWithin_error_column h rfl⟩

end Expr
end QuantityCalculus
