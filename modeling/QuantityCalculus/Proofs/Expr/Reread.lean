/-
# Nodes are read again from their own text

The text of a node scans to the tokens that the node was read from, in other columns, with the
end in place of what followed. A phrase is read from such a copy of its tokens as it was before:
kinds and contents are the same, what stopped a row or an operand stops it at the end too, and
the texts between columns are the same, because both ends move by the same number of columns.

**Main statement.** `reread`: the content of every node is a part of the text, and it is read as
that node.
-/

import QuantityCalculus.Proofs.Expr.Cut
import QuantityCalculus.Proofs.Expr.Nodes
import QuantityCalculus.Proofs.Expr.Readers
import QuantityCalculus.Proofs.Expr.Simulation

namespace QuantityCalculus
namespace Expr

open Token Text

variable {m : Marks} {d : Nat} {g : Phrase} {e n : Expr} {ts ts' mid mid' rest : List Token}
  {next : Token} {text : String} {seg : List Token}

/-! ### Copies of the tokens of a part -/

/-- Tokens and their copies in a part of the text, up to the token behind the part. -/
def Mirrors (p : Part m text seg next) (rest ts ts' : List Token) : Prop :=
  Copies p.before.length (next :: rest) [p.last] ts ts' ∧ ∀ t ∈ ts', t.column ≤ p.part.length

variable {p : Part m text seg next} {isUnit : String → Bool}

theorem Mirrors.uncons {t : Token} (h : Mirrors p rest (t :: ts) ts')
    (hs : next :: rest <:+ ts) :
    ∃ t' us, ts' = t' :: us ∧ t'.kind = t.kind ∧ t'.content = t.content ∧ Mirrors p rest ts us := by
  obtain ⟨t', us, rfl, h₁, h₂, -, hc⟩ := h.1.uncons hs
  exact ⟨t', us, rfl, h₁, h₂, hc, fun a ha => h.2 a (List.mem_cons_of_mem _ ha)⟩

/-- What does not follow in the text does not follow in a part of it. -/
theorem Mirrors.kindOf_ne {k : TokenKind} (h : Mirrors p rest ts ts') (hk : kindOf ts ≠ k)
    (hend : k ≠ .endOfLine) : kindOf ts' ≠ k := by
  cases h.1 with
  | stop => exact hend.symm
  | cons h₁ _ _ _ =>
    rw [kindOf_cons] at hk ⊢
    rwa [h₁]

theorem Mirrors.stops {r : Row} (h : Mirrors p rest ts ts')
    (hs : r.Stops ⟨text.toList, isUnit⟩ ts) : r.Stops ⟨p.part, isUnit⟩ ts' := by
  cases h.1 with
  | stop => exact r.stops_of_end rfl
  | cons h₁ h₂ _ _ =>
    rw [Row.stops_cons] at hs ⊢
    rwa [Row.goesOn_congr r h₁ h₂ rfl]

/-- The text between two tokens is that between their copies. -/
theorem Mirrors.upTo (isUnit : String → Bool) (h : Mirrors p rest ts ts')
    (hmid : Mirrors p rest mid mid') (hlt : mid.length < ts.length) :
    Source.upTo ⟨text.toList, isUnit⟩ (columnOf ts) mid =
      Source.upTo ⟨p.part, isUnit⟩ (columnOf ts') mid' := by
  obtain ⟨h, hcol⟩ := h
  obtain ⟨hm, hmcol⟩ := hmid
  cases h with
  | stop =>
    have := hm.suffix.length_le
    omega
  | @cons t t' ts ts' _ _ hshift _ =>
    have ht' := hcol t' (List.mem_cons_self ..)
    simp only [Source.upTo, columnOf_cons, hshift]
    cases hm with
    | stop => exact (p.slice_end ht').symm
    | @cons a a' as as' _ _ hashift _ =>
      rw [columnOf_cons, columnOf_cons, hashift]
      exact (p.slice_eq (hmcol a' (List.mem_cons_self ..))).symm

/-- The tokens of a part go along with those of the text, up to its end. -/
theorem simulation_part (p : Part m text seg next) (rest : List Token) (isUnit : String → Bool) :
    Simulation ⟨text.toList, isUnit⟩ ⟨p.part, isUnit⟩ true (next :: rest) (Mirrors p rest) where
  uncons h hs := h.uncons hs
  unit _ _ := rfl
  kindOf_ne {k _ _} h hk hne := by
    refine h.kindOf_ne hne ?_
    rintro rfl
    exact absurd hk (by decide)
  stops h _ hs := h.stops hs
  upTo h hmid hlt _ := h.upTo isUnit hmid hlt

/-- **A phrase is read from a copy of its tokens as it was before,** and what is left is a copy of
what was left. -/
theorem Reads.mirror (h : Reads ⟨text.toList, isUnit⟩ d g ts e mid) (hts : Mirrors p rest ts ts')
    (hmid : next :: rest <:+ mid) :
    ∃ mid', Mirrors p rest mid mid' ∧ Reads ⟨p.part, isUnit⟩ d g ts' e mid' :=
  (simulation_part p rest isUnit).reads h hts hmid fun _ => .inl rfl

/-! ### Nodes and their texts -/

theorem Leaf.content {src : Source} {t : Token} (h : Leaf src t n) : n.content = t.content := by
  rcases h with ⟨-, rfl⟩ | ⟨-, -, rfl⟩ | ⟨-, -, rfl⟩ <;> rfl

theorem Leaf.proper {src : Source} {t : Token} (h : Leaf src t n) : Proper t := by
  rcases h with ⟨ht, -⟩ | ⟨ht, -, -⟩ | ⟨ht, -, -⟩ <;>
    exact proper_of_kind ht (by decide) (by decide)

/-- A single token is read in front of the end. -/
theorem Leaf.reads {src src' : Source} {t t' : Token} {ts : List Token} (h : Leaf src t n)
    (hu : src'.isUnit = src.isUnit) (hk : t'.kind = t.kind) (hc : t'.content = t.content)
    (hend : kindOf ts = .endOfLine) : Reads src' d (.operand true) (t' :: ts) n ts := by
  have h : Leaf src' t' n := by
    unfold Leaf at h ⊢
    rwa [hk, hc, hu]
  have hparen : kindOf ts ≠ .leftParen := by simp [hend]
  rcases h with ⟨ht, rfl⟩ | ⟨ht, hunit, rfl⟩ | ⟨ht, hunit, rfl⟩
  · exact .numberWithUnits (.whole (.first (.scalar ht)) (Row.stops_of_end _ hend))
  · exact .unit ht hparen hunit
  · exact .name ht hparen hunit

/-- An expression that is read from the tokens of a part is read from its text. -/
theorem readWithin_part (p : Part m text seg next)
    (h : Reads ⟨p.part, isUnit⟩ d .assignment (p.tokens ++ [p.last]) n [p.last]) :
    readWithin (d + 1) m isUnit (String.ofList p.part) = .ok n := by
  rw [readWithin, p.scan, String.toList_ofList]
  exact ofTokens_eq_ok_iff.2 ⟨d, [p.last], rfl, h, rfl⟩

/-- The copy of a part ends in the end. -/
theorem mirrors_part (p : Part m text seg next) (rest : List Token) :
    Mirrors p rest (seg ++ next :: rest) (p.tokens ++ [p.last]) := by
  refine ⟨p.copies.append, fun t ht => ?_⟩
  have := p.scans.column_le t ht
  omega

/-- At the place where copies stop, only the end is left. -/
theorem Mirrors.eq_last (h : Mirrors p rest (next :: rest) ts') : ts' = [p.last] := h.1.eq_tail

/-- The end of the text is never read. -/
theorem Reads.rest_ne_nil {src : Source} (h : Reads src d g (scan m text) e rest) : rest ≠ [] := by
  rintro rfl
  obtain ⟨seg, -, heq, hproper⟩ := h.consumed
  obtain ⟨body, last, hscan, hlast, -⟩ := (scan_eq_iff.1 (Eq.refl (scan m text))).shape
  have hmem : last ∈ seg := by
    rw [hscan, List.append_nil] at heq
    simp [← heq]
  exact (hproper last hmem).1 hlast

/-- What is left of a text, if it starts with the end, is the end. -/
theorem Reads.rest_eq_last {src : Source} (h : Reads src d g (scan m text) e rest)
    (hend : kindOf rest = .endOfLine) : ∃ last, rest = [last] := by
  obtain ⟨seg, -, hscan, -⟩ := h.consumed
  obtain ⟨last, after, rfl⟩ := List.exists_cons_of_ne_nil h.rest_ne_nil
  obtain ⟨body, final, hbody, -, hinner⟩ := (scan_eq_iff.1 (Eq.refl (scan m text))).shape
  rcases List.eq_nil_or_concat after with rfl | ⟨tail, t, rfl⟩
  · exact ⟨last, rfl⟩
  · rw [hscan, List.concat_eq_append, ← List.cons_append, ← List.append_assoc] at hbody
    have hmem : last ∈ body := (List.append_inj_left' hbody rfl) ▸ by simp
    exact absurd hend (hinner last hmem)

/-- A phrase is read from its own text, cut out of the text that it was read from. -/
theorem Reads.alone (hm : Inked m) {pre after : List Token}
    (hscan : scan m text = pre ++ (seg ++ next :: after)) (hg : Reads ⟨text.toList, isUnit⟩ d g
      (seg ++ next :: after) n (next :: after)) (hnode : g.IsNode) (hseg : seg ≠ [])
    (hproper : ∀ t ∈ seg, Proper t) :
    ∃ p : Part m text seg next, readWithin (d + 1) m isUnit (String.ofList p.part) = .ok n := by
  obtain ⟨p⟩ := exists_part hm hseg hscan hproper
  obtain ⟨mid, hmid, hread⟩ := hg.mirror (mirrors_part p after) (List.suffix_refl _)
  rw [hmid.eq_last] at hread
  exact ⟨p, readWithin_part p (hread.toAssignment hnode rfl)⟩

/-- Where no mark is a blank, the content of every node is a part of the text, and the node is read
from its content. -/
theorem readWithin_content (hm : Inked m) {depth : Nat}
    (h : readWithin depth m isUnit text = .ok e) (hn : n ∈ e.walk) :
    n.content.toList <:+: text.toList ∧ readWithin depth m isUnit n.content = .ok n := by
  obtain ⟨k, rest, rfl, hr, hend⟩ := ofTokens_eq_ok_iff.1 h
  have hne : rest ≠ [] := hr.rest_ne_nil
  cases hr.origin trivial n hn with
  | @leaf t after hl hts hrest =>
    obtain ⟨pre, hscan⟩ := hts
    obtain ⟨next, after, rfl⟩ := List.exists_cons_of_ne_nil (hrest.ne_nil hne)
    have hproper : ∀ a ∈ [t], Proper a := by simpa using hl.proper
    obtain ⟨p⟩ := exists_part hm (List.cons_ne_nil t []) hscan.symm hproper
    rw [hl.content, ← p.single]
    refine ⟨by rw [String.toList_ofList]; exact p.isInfix, readWithin_part p ?_⟩
    obtain ⟨t', us, htokens, hk, hc, -, hnil⟩ := p.copies.uncons (List.suffix_refl _)
    cases hnil
    rw [htokens]
    have hread : Reads ⟨p.part, isUnit⟩ k (.operand true) (t' :: [p.last]) n [p.last] :=
      hl.reads rfl hk hc rfl
    exact hread.toAssignment trivial rfl
  | @phrase g start stop hg hnode hc hts hrest =>
    obtain ⟨pre, hscan⟩ := hts
    obtain ⟨next, after, rfl⟩ := List.exists_cons_of_ne_nil (hrest.ne_nil hne)
    obtain ⟨seg, hseg, rfl, hproper⟩ := hg.consumed
    obtain ⟨p, hread⟩ := hg.alone hm hscan.symm hnode hseg hproper
    obtain ⟨t, seg, rfl⟩ := List.exists_cons_of_ne_nil hseg
    rw [hc, Source.upTo, List.cons_append, columnOf_cons, columnOf_cons, p.slice_text]
    exact ⟨by rw [String.toList_ofList]; exact p.isInfix, hread⟩

/-- **Nodes are read again from their own text.** Where an expression is read from a text, with
any unit words, the content of every node is a part of the text, and that node is read from its
content, with all contents inside it. -/
theorem reread {depth : Nat} (h : readWithin depth .standard isUnit text = .ok e)
    (hn : n ∈ e.walk) :
    n.content.toList <:+: text.toList ∧
      readWithin depth .standard isUnit n.content = .ok n :=
  readWithin_content inked_standard h hn

/-- The text of an exponent in parentheses, whose number takes its unit. -/
theorem reread_exponent :
    "1 m".toList <:+: "2 m^(1 m)".toList ∧
      readWithin deepest .standard (· == "m") "1 m" =
        .ok (.binary .multiply (.scalar "1") (.unit "m") "1 m") := by
  have h : readWithin deepest .standard (· == "m") "2 m^(1 m)" = .ok
      (.binary .multiply (.scalar "2") (.binary .power (.unit "m")
        (.binary .multiply (.scalar "1") (.unit "m") "1 m") "m^(1 m)") "2 m^(1 m)") := by
    decide +kernel
  exact reread (n := .binary .multiply (.scalar "1") (.unit "m") "1 m") h (by simp [walk])

end Expr
end QuantityCalculus
