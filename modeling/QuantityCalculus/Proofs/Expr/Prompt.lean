/-
# Readers that fail as soon as they can

A reader goes through the tokens once, from the left. `PromptAt` says what that means for the
tokens it is given:

* what it reads, it reads again from tokens with the same lexemes, in front of anything that starts
  alike or halts every row;
* where it fails, the tokens in front can be completed, and no tokens that start with them and with
  the one at the column of the failure are read.

All completions are made of zeros, closing parentheses and colons. A token of these kinds goes on
with nothing that was read before, so a completion never changes what the tokens in front of it
are read as.

A reader is put together from others, and there is one rule for each way to do so: two readers one
after the other (`PromptAt.join`), a reader behind a token (`PromptAt.behind`), and a reader that is
chosen by the first token (`PromptAt.follows` and `PromptAt.starts`).
-/

import QuantityCalculus.Proofs.Expr.Print
import QuantityCalculus.Proofs.Expr.Readers
import QuantityCalculus.Proofs.Expr.Simulation

namespace QuantityCalculus

/-- The column of an error, if it has one. -/
def SyntaxError.column? : SyntaxError → Option Nat
  | unrecognized c | unclosed c | missingColon c => some c
  | nothing | tooDeep => none

/-- The wording of an error ends with its column. -/
theorem SyntaxError.message_of_column? {err : SyntaxError} {c : Nat} (h : err.column? = some c) :
    ∃ problem, err.message = atColumn problem c := by
  cases err <;> cases h <;> exact ⟨_, rfl⟩

namespace Expr

/-! ### Tokens with the same lexemes -/

/-- Rows of tokens with the same lexemes. -/
def SameLexemes (w w' : List Token) : Prop := w'.map Token.lexeme = w.map Token.lexeme

/-- Tokens of which the first ones, if any, have the same lexeme. -/
def StartAlike (ts ts' : List Token) : Prop :=
  ts'.head?.map Token.lexeme = ts.head?.map Token.lexeme

/-- The kinds of tokens that go on with nothing that was read before. -/
def haltingKinds : List TokenKind := [.scalar, .rightParen, .colon, .endOfLine]

/-- Tokens of which the first one, if any, goes on with nothing that was read before. -/
def Halts (ts : List Token) : Prop := kindOf ts ∈ haltingKinds

/-- Tokens that may stand in the place of others behind what was read. -/
def MayFollow (ts ts' : List Token) : Prop := StartAlike ts ts' ∨ Halts ts'

/-- The lexemes of which completions are made. -/
def fillers : List (TokenKind × String) := [(.scalar, "0"), (.rightParen, ")"), (.colon, ":")]

/-- A row of fillers. -/
def Fills (c : List Token) : Prop := ∀ t ∈ c, t.lexeme ∈ fillers

/-- A reader of the same units with at least the same depth. -/
def Above (src : Source) (d : Nat) (src' : Source) (d' : Nat) : Prop :=
  src'.isUnit = src.isUnit ∧ d ≤ d'

variable {src src' : Source} {d d' : Nat} {t t' : Token}
  {ts ts' w w' v v' c rest rest' stop tail : List Token}

theorem kind_of_lexeme (h : t'.lexeme = t.lexeme) : t'.kind = t.kind := (Prod.mk.inj h).1

theorem content_of_lexeme (h : t'.lexeme = t.lexeme) : t'.content = t.content :=
  (Prod.mk.inj h).2

theorem SameLexemes.refl (w : List Token) : SameLexemes w w := rfl

theorem sameLexemes_nil : SameLexemes [] w' ↔ w' = [] := by simp [SameLexemes]

theorem SameLexemes.exists_cons (h : SameLexemes (t :: w) w') :
    ∃ t' v, w' = t' :: v ∧ t'.lexeme = t.lexeme ∧ SameLexemes w v :=
  List.map_eq_cons_iff.1 h

theorem SameLexemes.exists_append (h : SameLexemes (w ++ v) w') :
    ∃ u u', w' = u ++ u' ∧ SameLexemes w u ∧ SameLexemes v u' := by
  rw [SameLexemes, List.map_append] at h
  obtain ⟨u, u', rfl, hu, hu'⟩ := List.map_eq_append_iff.1 h
  exact ⟨u, u', rfl, hu, hu'⟩

theorem StartAlike.kindOf (h : StartAlike ts ts') : Expr.kindOf ts' = Expr.kindOf ts := by
  have h : ts'.head?.map Token.kind = ts.head?.map Token.kind := by
    simpa [Token.lexeme, Function.comp_def] using congrArg (Option.map Prod.fst) h
  simp only [Expr.kindOf, h]

/-- Tokens that start like some with a first one have a first one. -/
theorem StartAlike.exists_cons (h : StartAlike (t :: ts) ts') :
    ∃ t' tail, ts' = t' :: tail ∧ t'.lexeme = t.lexeme := by
  cases ts' with
  | nil => cases h
  | cons t' tail => exact ⟨t', tail, rfl, Option.some.inj h⟩

theorem startAlike_cons (h : t'.lexeme = t.lexeme) : StartAlike (t :: ts) (t' :: ts') :=
  congrArg some h

theorem SameLexemes.same_start (h : SameLexemes w w') : StartAlike w w' := by
  simpa [StartAlike] using congrArg List.head? h

theorem SameLexemes.startAlike (h : SameLexemes w w') (hne : w ≠ []) :
    StartAlike (w ++ rest) (w' ++ rest') := by
  obtain ⟨t, v, rfl⟩ := List.exists_cons_of_ne_nil hne
  obtain ⟨t', v', rfl, ht, -⟩ := h.exists_cons
  exact startAlike_cons ht

theorem StartAlike.append (hr : StartAlike rest rest') (h : SameLexemes w w') :
    StartAlike (w ++ rest) (w' ++ rest') := by
  cases w with
  | nil =>
    rw [sameLexemes_nil.1 h]
    exact hr
  | cons t v => exact h.startAlike (List.cons_ne_nil t v)

theorem StartAlike.refl (ts : List Token) : StartAlike ts ts := rfl

theorem StartAlike.symm (h : StartAlike ts ts') : StartAlike ts' ts := Eq.symm h

theorem MayFollow.refl (ts : List Token) : MayFollow ts ts := .inl rfl

theorem MayFollow.append (hr : MayFollow rest rest') (h : SameLexemes w w') :
    MayFollow (w ++ rest) (w' ++ rest') := by
  cases w with
  | nil =>
    rw [sameLexemes_nil.1 h]
    exact hr
  | cons t v => exact .inl (h.startAlike (List.cons_ne_nil t v))

theorem Halts.kindOf_ne {k : TokenKind} (h : Halts ts) (hk : k ∉ haltingKinds) : kindOf ts ≠ k :=
  fun heq => hk (heq ▸ h)

theorem MayFollow.kindOf_ne {k : TokenKind} (h : MayFollow ts ts') (hk : k ∉ haltingKinds)
    (hne : kindOf ts ≠ k) : kindOf ts' ≠ k := by
  rcases h with h | h
  · rwa [h.kindOf]
  · exact h.kindOf_ne hk

theorem halts_nil : Halts [] := by simp [Halts, haltingKinds]

theorem Fills.append (hw : Fills w) (hv : Fills v) : Fills (w ++ v) := fun t ht =>
  (List.mem_append.1 ht).elim (hw t) (hv t)

theorem Fills.halts (hc : Fills c) (h : Halts tail) : Halts (c ++ tail) := by
  cases c with
  | nil => exact h
  | cons t c =>
    have ht := hc t (List.mem_cons_self ..)
    simp only [fillers, List.mem_cons, List.not_mem_nil, or_false, Token.lexeme,
      Prod.mk.injEq] at ht
    rcases ht with ⟨ht, -⟩ | ⟨ht, -⟩ | ⟨ht, -⟩ <;>
      simp [Halts, haltingKinds, ht]

theorem Fills.of_sameLexemes (hc : Fills c) (h : SameLexemes c w) : Fills w := by
  intro t ht
  have : t.lexeme ∈ c.map Token.lexeme := h ▸ List.mem_map_of_mem ht
  obtain ⟨t', ht', heq⟩ := List.mem_map.1 this
  exact heq ▸ hc t' ht'

theorem Above.refl (src : Source) (d : Nat) : Above src d src d := ⟨rfl, Nat.le_refl d⟩

/-! ### Stages of a reader -/

/-- A part of a reader: what it is given by the parts before it, the text, the depth of what may
stand inside it, and the tokens. -/
abbrev Stage (γ β : Type) := γ → Source → Nat → List Token → Except SyntaxError (β × List Token)

/-- A reader as a stage that is given nothing. -/
def Stage.of (R : Source → Readers → Reader) : Stage Unit Expr :=
  fun _ src d => R src (readers src d)

/-- The stage that returns what it is given. -/
def Stage.done {β : Type} : Stage β β := fun b _ _ ts => .ok (b, ts)

/-- Both fail with one error, or both leave the same tokens. -/
def EndAlike {β β' : Type} (a : Except SyntaxError (β × List Token))
    (a' : Except SyntaxError (β' × List Token)) : Prop :=
  a.map Prod.snd = a'.map Prod.snd

section Rules

variable {γ γ' δ β β' : Type} {F : Stage γ β} {G : Stage δ β'} {H : Stage γ' β'}
  {a : Except SyntaxError (β × List Token)} {a' : Except SyntaxError (β' × List Token)}

/-- The tokens `w` are read in front of all tokens with the property. -/
def Passes (F : Stage γ β) (src : Source) (d : Nat) (w : List Token) (P : List Token → Prop) :
    Prop :=
  ∀ ⦃x src' d' w' rest⦄, Above src d src' d' → SameLexemes w w' → P rest →
    ∃ b, F x src' d' (w' ++ rest) = .ok (b, rest)

/-- Nothing is read from tokens that start with `w` and a token like the first one of `stop`. -/
def Refuses (F : Stage γ β) (src : Source) (d : Nat) (w stop : List Token) : Prop :=
  ∀ ⦃x src' d' w' stop'⦄, Above src d src' d' → SameLexemes w w' → StartAlike stop stop' →
    ∃ err, F x src' d' (w' ++ stop') = .error err

/-- Some fillers complete the tokens `w`. -/
def Completable (F : Stage γ β) (src : Source) (d : Nat) (w : List Token) : Prop :=
  ∃ c, Fills c ∧ Passes F src d (w ++ c) Halts

/-- A stage that fails as soon as it can. -/
structure PromptAt (F : Stage γ β) (src : Source) (d : Nat) (ts : List Token) : Prop where
  passes : ∀ {x b rest}, F x src d ts = .ok (b, rest) →
    ∃ w, ts = w ++ rest ∧ Passes F src d w (MayFollow rest)
  fails : ∀ {x err}, F x src d ts = .error err → err ≠ .tooDeep →
    ∃ w stop, ts = w ++ stop ∧ err.column? = some (columnOf stop) ∧ Completable F src d w ∧
      Refuses F src d w stop

theorem EndAlike.refl (a : Except SyntaxError (β × List Token)) : EndAlike a a := rfl

theorem EndAlike.symm (h : EndAlike a a') : EndAlike a' a := Eq.symm h

theorem EndAlike.ok {b : β} (h : EndAlike a a') (ha : a = .ok (b, rest)) :
    ∃ b', a' = .ok (b', rest) := by
  subst ha
  cases a' with
  | error e => cases h
  | ok r => exact ⟨r.1, congrArg Except.ok (Prod.ext rfl (Except.ok.inj h).symm)⟩

theorem EndAlike.error {err : SyntaxError} (h : EndAlike a a') (ha : a = .error err) :
    a' = .error err := by
  subst ha
  cases a' with
  | error e => exact congrArg Except.error (Except.error.inj h).symm
  | ok r => cases h

/-- What is done to a result leaves the tokens as they are. -/
theorem endAlike_bind (f : β × List Token → β') :
    EndAlike (a >>= fun r => .ok (f r, r.2)) a := by
  cases a <;> rfl

/-- Where another stage reads `w` and what is behind it, so does this one. -/
theorem Passes.of_endAlike {P : List Token → Prop} (hF : Passes F src d w P)
    (h : ∀ ⦃x src' d' w' rest⦄, Above src d src' d' → SameLexemes w w' → P rest →
      ∃ y, EndAlike (H x src' d' (w' ++ rest)) (F y src' d' (w' ++ rest))) :
    Passes H src d w P := by
  intro x src' d' w' rest ha hw hr
  obtain ⟨y, hy⟩ := h (x := x) ha hw hr
  obtain ⟨b, hb⟩ := hF (x := y) ha hw hr
  exact hy.symm.ok hb

theorem Refuses.of_endAlike (hF : Refuses F src d w stop)
    (h : ∀ ⦃x src' d' w' stop'⦄, Above src d src' d' → SameLexemes w w' → StartAlike stop stop' →
      ∃ y, EndAlike (H x src' d' (w' ++ stop')) (F y src' d' (w' ++ stop'))) :
    Refuses H src d w stop := by
  intro x src' d' w' stop' ha hw hs
  obtain ⟨y, hy⟩ := h (x := x) ha hw hs
  obtain ⟨err, he⟩ := hF (x := y) ha hw hs
  exact ⟨err, hy.symm.error he⟩

theorem PromptAt.done : PromptAt (Stage.done : Stage β β) src d ts where
  passes := fun h => by
    cases h
    refine ⟨[], rfl, fun x src' d' w' rest _ hw _ => ?_⟩
    rw [sameLexemes_nil.1 hw]
    exact ⟨x, rfl⟩
  fails := fun h => by cases h

/-- Below the last depth nothing is read. -/
theorem PromptAt.of_tooDeep (h : ∀ x, F x src d ts = .error .tooDeep) : PromptAt F src d ts where
  passes := fun hx => by rw [h] at hx; cases hx
  fails := fun hx hne => by rw [h] at hx; cases hx; exact absurd rfl hne

/-- A stage that fails at the first token. -/
theorem PromptAt.refuse (hc : Completable F src d [])
    (h : ∀ ⦃x src' d' ts'⦄, Above src d src' d' → StartAlike ts ts' →
      ∃ err, F x src' d' ts' = .error err ∧ err.column? = some (columnOf ts')) :
    PromptAt F src d ts where
  passes := fun {x _ _} hx => by
    obtain ⟨err, he, -⟩ := h (x := x) (.refl src d) rfl
    cases hx.symm.trans he
  fails := fun {x _} hx _ => by
    obtain ⟨err, he, hcol⟩ := h (x := x) (.refl src d) rfl
    cases hx.symm.trans he
    refine ⟨[], ts, rfl, hcol, hc, fun x src' d' w' ts' ha hs hts => ?_⟩
    rw [sameLexemes_nil.1 hs]
    obtain ⟨err, he, -⟩ := h (x := x) ha hts
    exact ⟨err, he⟩

/-- A single filler completes what is read from it in front of everything that halts. -/
theorem completable_of_token (ht : t.lexeme ∈ fillers)
    (h : ∀ ⦃x src' d' t' rest⦄, Above src d src' d' → t'.lexeme = t.lexeme → Halts rest →
      ∃ b, F x src' d' (t' :: rest) = .ok (b, rest)) :
    Completable F src d [] := by
  refine ⟨[t], fun s hs => List.mem_singleton.1 hs ▸ ht, fun x src' d' w' rest ha hs hr => ?_⟩
  obtain ⟨t', v, rfl, ht', hv⟩ := SameLexemes.exists_cons hs
  rw [sameLexemes_nil.1 hv]
  exact h ha ht' hr

/-- A stage that may stop at once. -/
theorem completable_nil
    (h : ∀ ⦃x src' d' rest⦄, Halts rest → ∃ b, F x src' d' rest = .ok (b, rest)) :
    Completable F src d [] := by
  refine ⟨[], fun _ ht => absurd ht List.not_mem_nil, fun x src' d' w' rest _ hs hr => ?_⟩
  rw [sameLexemes_nil.1 hs]
  exact h hr

/-- A stage that does as another one on all tokens that may stand in the place of these. -/
theorem PromptAt.follows (hF : PromptAt F src d ts)
    (h : ∀ ⦃x src' d' ts'⦄, Above src d src' d' → MayFollow ts ts' →
      ∃ y, EndAlike (H x src' d' ts') (F y src' d' ts')) :
    PromptAt H src d ts where
  passes := fun hx => by
    obtain ⟨y, hy⟩ := h (.refl src d) (.refl ts)
    obtain ⟨b, hb⟩ := hy.ok hx
    obtain ⟨w, rfl, hw⟩ := hF.passes hb
    exact ⟨w, rfl, hw.of_endAlike fun _ _ _ _ _ ha hs hr => h ha (hr.append hs)⟩
  fails := fun hx hne => by
    obtain ⟨y, hy⟩ := h (.refl src d) (.refl ts)
    obtain ⟨w, stop, rfl, hcol, ⟨c, hc, hp⟩, hr⟩ := hF.fails (hy.error hx) hne
    refine ⟨w, stop, rfl, hcol, ⟨c, hc, hp.of_endAlike ?_⟩, hr.of_endAlike ?_⟩
    · intro x src' d' w' rest ha hs hh
      obtain ⟨u, c', rfl, hu, hc'⟩ := hs.exists_append
      rw [List.append_assoc]
      exact h ha (MayFollow.append (.inr ((hc.of_sameLexemes hc').halts hh)) hu)
    · exact fun x src' d' w' stop' ha hs hst => h ha (.inl (hst.append hs))

/-- A stage that does as another one on all tokens that start like these. The other one must read
something. -/
theorem PromptAt.starts (hF : PromptAt F src d ts)
    (h : ∀ ⦃x src' d' ts'⦄, Above src d src' d' → StartAlike ts ts' →
      ∃ y, EndAlike (H x src' d' ts') (F y src' d' ts'))
    (hnil : ∀ x, ∃ err, F x src d [] = .error err)
    (hlate : Refuses F src d [] ts → Completable H src d []) : PromptAt H src d ts where
  passes := fun hx => by
    obtain ⟨y, hy⟩ := h (.refl src d) (.refl ts)
    obtain ⟨b, hb⟩ := hy.ok hx
    obtain ⟨w, rfl, hw⟩ := hF.passes hb
    have hne : w ≠ [] := by
      rintro rfl
      obtain ⟨b, hb⟩ := hw (x := y) (.refl src d) (.refl []) (.inr halts_nil)
      obtain ⟨err, he⟩ := hnil y
      cases hb.symm.trans he
    exact ⟨w, rfl, hw.of_endAlike fun _ _ _ _ _ ha hs _ => h ha (hs.startAlike hne)⟩
  fails := fun hx herr => by
    obtain ⟨y, hy⟩ := h (.refl src d) (.refl ts)
    obtain ⟨w, stop, rfl, hcol, ⟨c, hc, hp⟩, hr⟩ := hF.fails (hy.error hx) herr
    refine ⟨w, stop, rfl, hcol, ?_, hr.of_endAlike fun _ _ _ _ _ ha hs hst => h ha (hst.append hs)⟩
    cases w with
    | nil => exact hlate hr
    | cons t w =>
      refine ⟨c, hc, hp.of_endAlike fun x src' d' w' rest ha hs _ => ?_⟩
      obtain ⟨u, c', rfl, hu, -⟩ := hs.exists_append
      rw [List.append_assoc]
      exact h ha (hu.startAlike (List.cons_ne_nil t w))

/-- A stage behind a token. -/
theorem PromptAt.behind (hF : PromptAt F src d tail)
    (h : ∀ ⦃x src' d' t' tail'⦄, Above src d src' d' → t'.lexeme = t.lexeme →
      ∃ y, EndAlike (H x src' d' (t' :: tail')) (F y src' d' tail')) :
    PromptAt H src d (t :: tail) := by
  have hpass : ∀ {w : List Token} {P : List Token → Prop}, Passes F src d w P →
      Passes H src d (t :: w) P := by
    intro w P hw x src' d' w' rest ha hs hr
    obtain ⟨t', v, rfl, ht, hv⟩ := hs.exists_cons
    obtain ⟨y, hy⟩ : ∃ y, EndAlike (H x src' d' (t' :: (v ++ rest))) (F y src' d' (v ++ rest)) :=
      h ha ht
    obtain ⟨b, hb⟩ := hw (x := y) ha hv hr
    exact hy.symm.ok hb
  have hhere : ∀ x, ∃ y, EndAlike (H x src d (t :: tail)) (F y src d tail) :=
    fun x => h (.refl src d) rfl
  constructor
  · intro x b rest hx
    obtain ⟨y, hy⟩ := hhere x
    obtain ⟨b, hb⟩ := hy.ok hx
    obtain ⟨w, rfl, hw⟩ := hF.passes hb
    exact ⟨t :: w, rfl, hpass hw⟩
  · intro x err hx herr
    obtain ⟨y, hy⟩ := hhere x
    obtain ⟨w, stop, rfl, hcol, ⟨c, hc, hp⟩, hr⟩ := hF.fails (hy.error hx) herr
    refine ⟨t :: w, stop, rfl, hcol, ⟨c, hc, hpass hp⟩, ?_⟩
    intro x src' d' w' stop' ha hs hst
    obtain ⟨t', v, rfl, ht, hv⟩ := hs.exists_cons
    obtain ⟨y, hy⟩ : ∃ y, EndAlike (H x src' d' (t' :: (v ++ stop'))) (F y src' d' (v ++ stop')) :=
      h ha ht
    obtain ⟨err, he⟩ := hr (x := y) ha hv hst
    exact ⟨err, hy.symm.error he⟩

/-- One stage after the other. -/
def Joins (F : Stage γ β) (G : Stage δ β') (H : Stage γ' β') : Prop :=
  ∀ x src d ts, ∃ y, ∃ give : β × List Token → δ,
    EndAlike (H x src d ts) (F y src d ts >>= fun r => G (give r) src d r.2)

theorem Passes.join {P Q : List Token → Prop} (h : Joins F G H) (hF : Passes F src d w Q)
    (hG : Passes G src d v P) (hPQ : ∀ ⦃v' rest⦄, SameLexemes v v' → P rest → Q (v' ++ rest)) :
    Passes H src d (w ++ v) P := by
  intro x src' d' u rest ha hs hr
  obtain ⟨w', v', rfl, hw, hv⟩ := hs.exists_append
  rw [List.append_assoc]
  obtain ⟨y, give, hy⟩ := h x src' d' (w' ++ (v' ++ rest))
  obtain ⟨b, hb⟩ := hF (x := y) ha hw (hPQ hv hr)
  obtain ⟨b', hb'⟩ := hG (x := give (b, v' ++ rest)) ha hv hr
  rw [hb, Except.ok_bind] at hy
  exact hy.symm.ok hb'

theorem Refuses.join_first (h : Joins F G H) (hF : Refuses F src d w stop) :
    Refuses H src d w stop := by
  intro x src' d' w' stop' ha hs hst
  obtain ⟨y, give, hy⟩ := h x src' d' (w' ++ stop')
  obtain ⟨err, he⟩ := hF (x := y) ha hs hst
  rw [he] at hy
  exact ⟨err, hy.symm.error rfl⟩

theorem Refuses.join_second (h : Joins F G H) (hF : Passes F src d w (MayFollow (v ++ stop)))
    (hG : Refuses G src d v stop) : Refuses H src d (w ++ v) stop := by
  intro x src' d' u stop' ha hs hst
  obtain ⟨w', v', rfl, hw, hv⟩ := hs.exists_append
  rw [List.append_assoc]
  obtain ⟨y, give, hy⟩ := h x src' d' (w' ++ (v' ++ stop'))
  obtain ⟨b, hb⟩ := hF (x := y) ha hw (.inl (hst.append hv))
  obtain ⟨err, he⟩ := hG (x := give (b, v' ++ stop')) ha hv hst
  rw [hb, Except.ok_bind] at hy
  exact ⟨err, hy.symm.error he⟩

/-- **Two stages one after the other.** What completes the first one is followed by what the second
one needs at least. -/
theorem PromptAt.join (h : Joins F G H) (hF : PromptAt F src d ts)
    (hG : ∀ {x b mid}, F x src d ts = .ok (b, mid) → PromptAt G src d mid)
    (hc : Completable G src d []) : PromptAt H src d ts := by
  constructor
  · intro x b rest hx
    obtain ⟨y, give, hy⟩ := h x src d ts
    obtain ⟨b', hb'⟩ := hy.ok hx
    obtain ⟨⟨a, mid⟩, ha, hg⟩ := Except.bind_eq_ok_iff.1 hb'
    obtain ⟨w, rfl, hw⟩ := hF.passes ha
    obtain ⟨v, rfl, hv⟩ := (hG ha).passes hg
    refine ⟨w ++ v, (List.append_assoc w v rest).symm, hw.join h hv fun v' rest' hs hr => ?_⟩
    exact hr.append hs
  · intro x err hx herr
    obtain ⟨y, give, hy⟩ := h x src d ts
    rcases Except.bind_eq_error (hy.error hx) with hf | ⟨⟨a, mid⟩, ha, hg⟩
    · obtain ⟨w, stop, rfl, hcol, ⟨c, hfill, hp⟩, hr⟩ := hF.fails hf herr
      obtain ⟨c', hfill', hp'⟩ := hc
      refine ⟨w, stop, rfl, hcol, ⟨c ++ c', hfill.append hfill', ?_⟩, hr.join_first h⟩
      rw [← List.append_assoc]
      exact hp.join h hp' fun v' rest hs hh => (hfill'.of_sameLexemes hs).halts hh
    · obtain ⟨w, rfl, hw⟩ := hF.passes ha
      obtain ⟨v, stop, rfl, hcol, ⟨c, hfill, hp⟩, hr⟩ := (hG ha).fails hg herr
      refine ⟨w ++ v, stop, (List.append_assoc w v stop).symm, hcol, ⟨c, hfill, ?_⟩,
        hr.join_second h hw⟩
      rw [List.append_assoc]
      refine hw.join h hp fun v' rest hs hh => ?_
      -- either `v` starts both or the completion comes next
      obtain ⟨u, c', rfl, hu, hc'⟩ := hs.exists_append
      rw [List.append_assoc]
      exact MayFollow.append (.inr ((hfill.of_sameLexemes hc').halts hh)) hu

/-- What may stand inside an expression is read one level deeper. -/
theorem PromptAt.deeper {H : Stage γ β} (h : ∀ x src d ts, H x src (d + 1) ts = F x src d ts)
    (hF : PromptAt F src d ts) : PromptAt H src (d + 1) ts := by
  have hup : ∀ x {src' d'} w', Above src (d + 1) src' d' →
      ∃ k, Above src d src' k ∧ H x src' d' w' = F x src' k w' := by
    rintro x src' d' w' ⟨hu, hd⟩
    obtain ⟨k, rfl⟩ : ∃ k, d' = k + 1 := ⟨d' - 1, by omega⟩
    exact ⟨k, ⟨hu, Nat.le_of_succ_le_succ hd⟩, h x src' k w'⟩
  have hpass : ∀ {w : List Token} {P : List Token → Prop}, Passes F src d w P →
      Passes H src (d + 1) w P := by
    intro w P hw x src' d' w' rest ha hs hr
    obtain ⟨k, hk, heq⟩ := hup x (w' ++ rest) ha
    rw [heq]
    exact hw hk hs hr
  constructor
  · intro x b rest hx
    rw [h] at hx
    obtain ⟨w, rfl, hw⟩ := hF.passes hx
    exact ⟨w, rfl, hpass hw⟩
  · intro x err hx herr
    rw [h] at hx
    obtain ⟨w, stop, rfl, hcol, ⟨c, hc, hp⟩, hr⟩ := hF.fails hx herr
    refine ⟨w, stop, rfl, hcol, ⟨c, hc, hpass hp⟩, fun x src' d' w' stop' ha hs hst => ?_⟩
    obtain ⟨k, hk, heq⟩ := hup x (w' ++ stop') ha
    rw [heq]
    exact hr hk hs hst

/-- A stage that goes on behind a token of some kind and stops in front of all others. -/
theorem PromptAt.ifKind {k : TokenKind} (hk : k ∉ haltingKinds)
    (hF : ∀ t tail, ts = t :: tail → PromptAt F src d tail)
    (hthen : ∀ ⦃x src d t tail⦄, t.kind = k →
      ∃ y, EndAlike (H x src d (t :: tail)) (F y src d tail))
    (helse : ∀ ⦃x src d ts⦄, kindOf ts ≠ k → ∃ b, H x src d ts = .ok (b, ts)) :
    PromptAt H src d ts := by
  by_cases h : kindOf ts = k
  · obtain ⟨t, tail, rfl, ht⟩ := exists_cons_of_kindOf h fun he => hk (by simp [he, haltingKinds])
    exact (hF t tail rfl).behind fun x src' d' t' tail' _ hlex =>
      hthen ((kind_of_lexeme hlex).trans ht)
  · have hdone : PromptAt (Stage.done : Stage β' β') src d ts := .done
    refine hdone.follows fun x src' d' ts' _ hf => ?_
    obtain ⟨b, hb⟩ : ∃ b, H x src' d' ts' = .ok (b, ts') := helse (hf.kindOf_ne hk h)
    exact ⟨b, by rw [hb]; exact .refl _⟩

theorem completable_ifKind {k : TokenKind} (hk : k ∉ haltingKinds)
    (helse : ∀ ⦃x src d ts⦄, kindOf ts ≠ k → ∃ b, H x src d ts = .ok (b, ts)) :
    Completable H src d [] :=
  completable_nil fun _ _ _ _ hr => helse (hr.kindOf_ne hk)

end Rules

end Expr
end QuantityCalculus
