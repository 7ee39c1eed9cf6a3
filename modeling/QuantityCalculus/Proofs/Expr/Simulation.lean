/-
# Reading goes along with the tokens

A phrase looks at kinds and contents of tokens, at which words are units, and at the text between
two columns. So where the tokens of one text go along with those of another, up to a place where
one of them goes on differently, the same phrases are read in both up to that place.

What stands at that place has to stop the phrases that end there. The end of a text stops all of
them (`loose`); an operator of a product stops those that are tight (`Phrase.isTight`).

**Main statement.** `Simulation.reads`: what is read from some tokens is read from those that go
along with them.
-/

import QuantityCalculus.Proofs.Expr.Reads

namespace QuantityCalculus
namespace Expr

/-- A phrase that an operator of a product stops. -/
def Phrase.isTight : Phrase → Bool
  | assignment | condition | openCall | row .product => false
  | row (.level _ _) | rowPart (.level _ _) | next (.level _ _) _ => false
  | _ => true

/-- A phrase that may end where the tokens part. -/
def Phrase.MayEnd (loose : Bool) (g : Phrase) : Prop := loose = true ∨ g.isTight = true

variable {src src' : Source} {d : Nat} {g : Phrase} {loose : Bool} {e : Expr} {t : Token}
  {ts ts' mid mid' rest tail : List Token} {R : List Token → List Token → Prop}

/-- The kinds that would make a phrase longer or another one. -/
def continuing : List TokenKind := [.assign, .question, .leftParen, .factorial, .power]

/-- The tokens in `src` that `R` relates to tokens in `src'` have the same kinds and contents in
front of `tail`, their words are units in both or in neither, and the texts between them are the
same. -/
structure Simulation (src src' : Source) (loose : Bool) (tail : List Token)
    (R : List Token → List Token → Prop) : Prop where
  uncons : ∀ {t ts ts'}, R (t :: ts) ts' → tail <:+ ts →
    ∃ t' us, ts' = t' :: us ∧ t'.kind = t.kind ∧ t'.content = t.content ∧ R ts us
  unit : ∀ {t ts ts'}, R (t :: ts) ts' → t.kind = .word →
    src'.isUnit t.content = src.isUnit t.content
  kindOf_ne : ∀ {k ts ts'}, R ts ts' → k ∈ continuing → kindOf ts ≠ k → kindOf ts' ≠ k
  stops : ∀ {r : Row} {ts ts'}, R ts ts' → (ts = tail → (Phrase.row r).MayEnd loose) →
    r.Stops src ts → r.Stops src' ts'
  upTo : ∀ {ts ts' mid mid'}, R ts ts' → R mid mid' → mid.length < ts.length → tail <:+ mid →
    src.upTo (columnOf ts) mid = src'.upTo (columnOf ts') mid'

/-- Whether a token goes on with a row depends on its kind, its content and the units. -/
theorem Row.goesOn_congr {t' : Token} (r : Row) (hk : t'.kind = t.kind)
    (hc : t'.content = t.content) (hu : src'.isUnit = src.isUnit) :
    r.goesOn src' t' = r.goesOn src t := by
  cases r with
  | level l _ => simp [goesOn, Level.operator?, hk, hc]
  | product => simp [goesOn, factorOperator?, hk, hc]
  | quotient => simp [goesOn, hk]
  | units => simp [goesOn, hk, hc, hu]

/-- Tokens in front of the place where the tokens part are not that place. -/
theorem ne_of_length_lt {α : Type} {tail mid ts : List α} (hs : tail <:+ mid)
    (h : mid.length < ts.length) : ts ≠ tail := by
  rintro rfl
  have := hs.length_le
  omega

/-- Where a phrase ends with its last part, that part may end there too. -/
theorem Phrase.MayEnd.of_tight {g' : Phrase} (h : g.MayEnd loose)
    (hg : g.isTight = true → g'.isTight = true) : g'.MayEnd loose :=
  h.imp id hg

namespace Simulation

/-- A phrase that is read from all tokens that go along with its own. -/
def Carried (src' : Source) (loose : Bool) (tail : List Token)
    (R : List Token → List Token → Prop) (d : Nat) (g : Phrase) (ts : List Token) (e : Expr)
    (mid : List Token) : Prop :=
  ∀ ⦃ts'⦄, R ts ts' → tail <:+ mid → (mid = tail → g.MayEnd loose) →
    ∃ mid', R mid mid' ∧ Reads src' d g ts' e mid'

/-- A phrase that does not end where the tokens part. -/
theorem Carried.before (ih : Carried src' loose tail R d g ts e mid) (hts : R ts ts')
    (hrest : tail <:+ rest) (hlt : rest.length < mid.length) (hmid : tail <:+ mid) :
    ∃ mid', R mid mid' ∧ Reads src' d g ts' e mid' :=
  ih hts hmid fun h => absurd h (ne_of_length_lt hrest hlt)

/-- A phrase between two tokens. -/
theorem Carried.enclosed (hs : Simulation src src' loose tail R) {q : Token}
    (ih : Carried src' loose tail R d g ts e (q :: mid)) (h : Reads src d g ts e (q :: mid))
    (hts : R (t :: ts) ts') (hmid : tail <:+ mid) :
    ∃ t' us q' mid', ts' = t' :: us ∧ t'.kind = t.kind ∧ q'.kind = q.kind ∧
      Reads src' d g us e (q' :: mid') ∧ R mid mid' := by
  have hq := hmid.trans (List.suffix_cons q mid)
  obtain ⟨t', us, rfl, hk, -, hus⟩ := hs.uncons hts (hq.trans h.consumed.isSuffix)
  obtain ⟨after, hafter, hr⟩ := ih.before hus hmid (by simp) hq
  obtain ⟨q', mid', rfl, hkq, -, hm⟩ := hs.uncons hafter hmid
  exact ⟨t', us, q', mid', rfl, hk, hkq, hr, hm⟩

/-- A phrase, a token and another phrase. -/
theorem Carried.joined (hs : Simulation src src' loose tail R) {us : List Token}
    {g₁ g₂ : Phrase} {d₁ d₂ : Nat} {e₁ e₂ : Expr}
    (ih₁ : Carried src' loose tail R d₁ g₁ ts e₁ (t :: us))
    (ih₂ : Carried src' loose tail R d₂ g₂ us e₂ mid) (h₂ : Reads src d₂ g₂ us e₂ mid)
    (hts : R ts ts') (hmid : tail <:+ mid) (hend : mid = tail → g₂.MayEnd loose) :
    ∃ t' us' mid', t'.kind = t.kind ∧ Reads src' d₁ g₁ ts' e₁ (t' :: us') ∧
      Reads src' d₂ g₂ us' e₂ mid' ∧ R mid mid' := by
  have hus := hmid.trans h₂.consumed.isSuffix
  obtain ⟨after, hafter, hr₁⟩ := ih₁.before hts hus (by simp) (hus.trans (List.suffix_cons t us))
  obtain ⟨t', us', rfl, hk, -, hus'⟩ := hs.uncons hafter hus
  obtain ⟨mid', hm, hr₂⟩ := ih₂ hus' hmid hend
  exact ⟨t', us', mid', hk, hr₁, hr₂, hm⟩

/-- No sign stands in front of tokens that go along with some that have none. -/
theorem leadingOperator? (hs : Simulation src src' loose tail R) (h : Reads src d g ts e mid)
    (hts : R ts ts') (hmid : tail <:+ mid) (hk : leadingOperator? (kindOf ts) = none) :
    Expr.leadingOperator? (kindOf ts') = none := by
  obtain ⟨seg, hne, rfl, -⟩ := h.consumed
  obtain ⟨t, seg, rfl⟩ := List.exists_cons_of_ne_nil hne
  obtain ⟨t', us, rfl, hkind, -, -⟩ :=
    hs.uncons hts (hmid.trans (List.suffix_append seg mid))
  rwa [kindOf_cons, hkind]

/-- What is read from some tokens leaves the tokens behind the first of them. -/
theorem suffix_of_cons (h : Reads src d g (t :: ts) e mid) (hmid : tail <:+ mid) :
    tail <:+ ts := by
  obtain ⟨seg, hne, heq, -⟩ := h.consumed
  cases seg with
  | nil => exact absurd rfl hne
  | cons a seg => exact hmid.trans ⟨seg, (List.cons.inj heq).2.symm⟩

/-- **What is read from some tokens is read from those that go along with them,** with the same
texts, if it may end where the tokens part or ends before. -/
theorem reads (hs : Simulation src src' loose tail R) (h : Reads src d g ts e mid)
    (hts : R ts ts') (hmid : tail <:+ mid) (hend : mid = tail → g.MayEnd loose) :
    ∃ mid', R mid mid' ∧ Reads src' d g ts' e mid' := by
  induction h generalizing ts' with
  | plainCondition _ hk ih =>
    obtain ⟨mid', hm, hr⟩ := ih hts hmid fun h => (hend h).of_tight (by simp [Phrase.isTight])
    exact ⟨mid', hm, .plainCondition hr (hs.kindOf_ne hm (by decide) hk)⟩
  | plainOperation _ hk ih =>
    obtain ⟨mid', hm, hr⟩ := ih hts hmid fun h => (hend h).of_tight (by simp [Phrase.isTight])
    exact ⟨mid', hm, .plainOperation hr (hs.kindOf_ne hm (by decide) hk)⟩
  | @whole _ r _ _ _ _ hstop ih =>
    obtain ⟨mid', hm, hr⟩ := ih hts hmid fun h =>
      (hend h).of_tight (by cases r <;> simp [Phrase.isTight])
    exact ⟨mid', hm, .whole hr (hs.stops hm hend hstop)⟩
  | @first _ r _ _ _ _ ih =>
    obtain ⟨mid', hm, hr⟩ := ih hts hmid fun h =>
      (hend h).of_tight (by cases r <;> simp [Phrase.isTight, Row.operand])
    exact ⟨mid', hm, .first hr⟩
  | unsigned hk h ih =>
    obtain ⟨mid', hm, hr⟩ := ih hts hmid fun _ => .inr rfl
    exact ⟨mid', hm, .unsigned (hs.leadingOperator? h hts hmid hk) hr⟩
  | noExponent _ hf hp ih =>
    obtain ⟨mid', hm, hr⟩ := ih hts hmid fun _ => .inr rfl
    exact ⟨mid', hm,
      .noExponent hr (hs.kindOf_ne hm (by decide) hf) (hs.kindOf_ne hm (by decide) hp)⟩
  | noFactorial _ ih =>
    obtain ⟨mid', hm, hr⟩ := ih hts hmid fun _ => .inr rfl
    exact ⟨mid', hm, .noFactorial hr⟩
  | bareNumber _ ih =>
    obtain ⟨mid', hm, hr⟩ := ih hts hmid fun _ => .inr rfl
    exact ⟨mid', hm, .bareNumber hr⟩
  | numberWithUnits _ ih =>
    obtain ⟨mid', hm, hr⟩ := ih hts hmid fun _ => .inr rfl
    exact ⟨mid', hm, .numberWithUnits hr⟩
  -- a token in front of a phrase
  | @nextLevel _ l _ t _ _ _ _ ht h ih =>
    obtain ⟨t', us, rfl, hk, hc, hus⟩ := hs.uncons hts (hmid.trans h.consumed.isSuffix)
    obtain ⟨mid', hm, hr⟩ := ih hus hmid fun h => (hend h).of_tight (by simp [Phrase.isTight])
    have ht' : l.operator? t' = l.operator? t := by
      simp only [Level.operator?, hk, hc]
    exact ⟨mid', hm, .nextLevel (ht'.trans ht) hr⟩
  | nextQuotient ht h ih =>
    obtain ⟨t', us, rfl, hk, hc, hus⟩ := hs.uncons hts (hmid.trans h.consumed.isSuffix)
    obtain ⟨mid', hm, hr⟩ := ih hus hmid fun _ => .inr rfl
    exact ⟨mid', hm, .nextQuotient (hk.trans ht) hr⟩
  | @nextFactor _ t _ _ _ _ ht h ih =>
    obtain ⟨t', us, rfl, hk, hc, hus⟩ := hs.uncons hts (hmid.trans h.consumed.isSuffix)
    obtain ⟨mid', hm, hr⟩ := ih hus hmid fun _ => .inr rfl
    have ht' : factorOperator? t' = factorOperator? t := by
      simp only [factorOperator?, hk]
    exact ⟨mid', hm, .nextFactor (ht'.trans ht) hr⟩
  | sign ht h ih =>
    have hlt := (Reads.sign ht h).consumed.length_lt
    obtain ⟨t', us, rfl, hk, hc, hus⟩ := hs.uncons hts (hmid.trans h.consumed.isSuffix)
    obtain ⟨mid', hm, hr⟩ := ih hus hmid fun _ => .inr rfl
    have hup := hs.upTo hts hm hlt hmid
    rw [columnOf_cons, columnOf_cons] at hup
    rw [hup]
    exact ⟨mid', hm, .sign (hk ▸ ht) hr⟩
  | factorUnit ht hw hu h ih =>
    have hunit := hs.unit hts ht
    obtain ⟨mid', hm, hr⟩ := ih hts hmid fun _ => .inr rfl
    obtain ⟨t', us, rfl, hk, hc, hus⟩ := hs.uncons hts (suffix_of_cons h hmid)
    exact ⟨mid', hm, .factorUnit (hk.trans ht) (hc ▸ hw) (by rw [hc, hunit, hu]) hr⟩
  | nextUnit ht hu h ih =>
    have hunit := hs.unit hts ht
    obtain ⟨mid', hm, hr⟩ := ih hts hmid fun _ => .inr rfl
    obtain ⟨t', us, rfl, hk, hc, hus⟩ := hs.uncons hts (suffix_of_cons h hmid)
    exact ⟨mid', hm, .nextUnit (hk.trans ht) (by rw [hc, hunit, hu]) hr⟩
  -- single tokens
  | factorName ht hw hu =>
    have hunit := hs.unit hts ht
    obtain ⟨t', us, rfl, hk, hc, hus⟩ := hs.uncons hts hmid
    rw [← hc]
    exact ⟨us, hus, .factorName (hk.trans ht) (hc ▸ hw) (by rw [hc, hunit, hu])⟩
  | scalar ht =>
    obtain ⟨t', us, rfl, hk, hc, hus⟩ := hs.uncons hts hmid
    rw [← hc]
    exact ⟨us, hus, .scalar (hk.trans ht)⟩
  | unit ht hp hu =>
    have hunit := hs.unit hts ht
    obtain ⟨t', us, rfl, hk, hc, hus⟩ := hs.uncons hts hmid
    rw [← hc]
    exact ⟨us, hus,
      .unit (hk.trans ht) (hs.kindOf_ne hus (by decide) hp) (by rw [hc, hunit, hu])⟩
  | name ht hp hu =>
    have hunit := hs.unit hts ht
    obtain ⟨t', us, rfl, hk, hc, hus⟩ := hs.uncons hts hmid
    rw [← hc]
    exact ⟨us, hus,
      .name (hk.trans ht) (hs.kindOf_ne hus (by decide) hp) (by rw [hc, hunit, hu])⟩
  -- tokens around a phrase
  | paren ht h hq ih =>
    obtain ⟨t', us, q', mid', rfl, hk, hkq, hr, hm⟩ := Carried.enclosed hs @ih h hts hmid
    exact ⟨mid', hm, .paren (hk.trans ht) hr (hkq.trans hq)⟩
  | factorParen ht h hq ih =>
    obtain ⟨t', us, q', mid', rfl, hk, hkq, hr, hm⟩ := Carried.enclosed hs @ih h hts hmid
    exact ⟨mid', hm, .factorParen (hk.trans ht) hr (hkq.trans hq)⟩
  | @firstArgument _ t q ts _ _ ht hq h ih =>
    have hts' := hmid.trans h.consumed.isSuffix
    obtain ⟨t', us, rfl, hk, hc, hus⟩ := hs.uncons hts (hts'.trans (List.suffix_cons q ts))
    obtain ⟨q', us, rfl, hkq, -, hus⟩ := hs.uncons hus hts'
    obtain ⟨mid', hm, hr⟩ := ih hus hmid fun h => (hend h).of_tight (by simp [Phrase.isTight])
    rw [← hc]
    exact ⟨mid', hm, .firstArgument (hk.trans ht) (hkq.trans hq) hr⟩
  | @emptyCall _ u t q₁ q₂ rest' ht h₁ h₂ =>
    have hlt : rest'.length < (t :: q₁ :: q₂ :: rest').length := by
      simp only [List.length_cons]
      omega
    have hmid₂ := hmid.trans (List.suffix_cons q₂ rest')
    obtain ⟨t', us, rfl, hk, hc, hus⟩ := hs.uncons hts (hmid₂.trans (List.suffix_cons q₁ _))
    obtain ⟨q₁', us, rfl, hk₁, -, hus⟩ := hs.uncons hus hmid₂
    obtain ⟨q₂', mid', rfl, hk₂, -, hm⟩ := hs.uncons hus hmid
    have hup := hs.upTo hts hm hlt hmid
    rw [columnOf_cons, columnOf_cons] at hup
    rw [hup, ← hc]
    exact ⟨mid', hm, .emptyCall (hk.trans ht) (hk₁.trans h₁) (hk₂.trans h₂)⟩
  -- a phrase after a phrase
  | @more _ r _ _ _ _ _ _ h₁ h₂ ih₁ ih₂ =>
    obtain ⟨us, hus, hr₁⟩ := Carried.before @ih₁ hts hmid h₂.consumed.length_lt
      (hmid.trans h₂.consumed.isSuffix)
    obtain ⟨mid', hm, hr₂⟩ := ih₂ hus hmid fun h =>
      (hend h).of_tight (by cases r <;> simp [Phrase.isTight])
    rw [hs.upTo hts hm (h₁.more h₂).consumed.length_lt hmid]
    exact ⟨mid', hm, .more hr₁ hr₂⟩
  | assign h₁ ht h₂ ih₁ ih₂ =>
    obtain ⟨t', us, mid', hk, hr₁, hr₂, hm⟩ := Carried.joined hs @ih₁ @ih₂ h₂ hts hmid
      fun h => (hend h).of_tight (by simp [Phrase.isTight])
    rw [hs.upTo hts hm (Reads.assign h₁ ht h₂).consumed.length_lt hmid]
    exact ⟨mid', hm, .assign hr₁ (hk.trans ht) hr₂⟩
  | exponent h₁ ht h₂ ih₁ ih₂ =>
    obtain ⟨t', us, mid', hk, hr₁, hr₂, hm⟩ := Carried.joined hs @ih₁ @ih₂ h₂ hts hmid
      fun _ => .inr rfl
    rw [hs.upTo hts hm (Reads.exponent h₁ ht h₂).consumed.length_lt hmid]
    exact ⟨mid', hm, .exponent hr₁ (hk.trans ht) hr₂⟩
  | nextArgument h₁ ht h₂ ih₁ ih₂ =>
    obtain ⟨t', us, mid', hk, hr₁, hr₂, hm⟩ := Carried.joined hs @ih₁ @ih₂ h₂ hts hmid
      fun h => (hend h).of_tight (by simp [Phrase.isTight])
    exact ⟨mid', hm, .nextArgument hr₁ (hk.trans ht) hr₂⟩
  | @conditional _ _ _ _ mid₁ _ _ mid₂ _ _ h₁ ht₁ h₂ ht₂ h₃ ih₁ ih₂ ih₃ =>
    have hmid₂ := hmid.trans h₃.consumed.isSuffix
    have hmid₁ := (hmid₂.trans (List.suffix_cons _ _)).trans h₂.consumed.isSuffix
    obtain ⟨t', us, mid', hk₁, hr₁, hr₂, hm⟩ := Carried.joined hs @ih₁ @ih₂ h₂ hts
      (hmid₂.trans (List.suffix_cons _ _)) fun h => absurd h (ne_of_length_lt hmid₂ (by simp))
    obtain ⟨t'', us', rfl, hk₂, -, hus'⟩ := hs.uncons hm hmid₂
    obtain ⟨mid', hm, hr₃⟩ := ih₃ hus' hmid fun h =>
      (hend h).of_tight (by simp [Phrase.isTight])
    rw [hs.upTo hts hm (Reads.conditional h₁ ht₁ h₂ ht₂ h₃).consumed.length_lt hmid]
    exact ⟨mid', hm, .conditional hr₁ (hk₁.trans ht₁) hr₂ (hk₂.trans ht₂) hr₃⟩
  -- a token behind a phrase
  | @factorial _ _ _ _ t rest' h ht ih =>
    obtain ⟨us, hus, hr⟩ := ih hts (hmid.trans (List.suffix_cons t rest')) fun _ => .inr rfl
    obtain ⟨t', us, rfl, hk, -, hm⟩ := hs.uncons hus hmid
    rw [hs.upTo hts hm (Reads.factorial h ht).consumed.length_lt hmid]
    exact ⟨us, hm, .factorial hr (hk.trans ht)⟩
  | @call _ u _ _ _ t rest' h ht ih =>
    obtain ⟨us, hus, hr⟩ := Carried.before @ih hts hmid (by simp)
      (hmid.trans (List.suffix_cons t rest'))
    obtain ⟨t', us, rfl, hk, -, hm⟩ := hs.uncons hus hmid
    rw [hs.upTo hts hm (Reads.call (u := u) h ht).consumed.length_lt hmid]
    exact ⟨us, hm, .call hr (hk.trans ht)⟩

end Simulation
end Expr
end QuantityCalculus
