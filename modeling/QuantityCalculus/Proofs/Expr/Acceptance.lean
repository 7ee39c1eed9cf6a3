/-
# The readers accept the grammar

The readers never go back: a word before a parenthesis is a call, a number takes every unit word
that follows it, and an exponent takes the factorial signs and exponents behind it. The grammar
knows no such order. A sentence is accepted all the same, because whatever a reader takes too much
is taken from what the context would have read next, and what it leaves is again a place from
where the context goes on.

A context is a set `k` of rows of tokens, those from where it goes on to its end, and
`Absorbs src k` says that a greedy reader may take the next piece of any of them. Within products
every symbol is read in front of such a context, up to some place inside it. From products on the
readers stop exactly where the sentence does.

**Main statement.** `accepts_iff_derives`: an expression is read from a text exactly when the
tokens before its end are a sentence.
-/

import QuantityCalculus.Proofs.Expr.Grammar
import QuantityCalculus.Proofs.Expr.Readers
import QuantityCalculus.Proofs.Expr.Scan

namespace QuantityCalculus
namespace Expr

/-- A phrase is read at some depth, to some expression. -/
def Readable (src : Source) (g : Phrase) (ts rest : List Token) : Prop :=
  ∃ d e, Reads src d g ts e rest

/-- The turns of the loop over a row, up to where it stops. -/
inductive Loop (src : Source) (r : Row) : List Token → List Token → Prop
  | stop {ts} : r.Stops src ts → Loop src r ts ts
  | turn {op ts mid rest} : Readable src (.next r op) ts mid → Loop src r mid rest →
    Loop src r ts rest

/-- The factorial signs and the exponent behind an operand. -/
inductive Behind (src : Source) : List Token → List Token → Prop
  | done {ts} : kindOf ts ≠ .factorial → kindOf ts ≠ .power → Behind src ts ts
  | factorial {t ts rest} : t.kind = .factorial → Behind src ts rest → Behind src (t :: ts) rest
  | exponent {t ts rest} : t.kind = .power → Readable src (.signed false) ts rest →
    Behind src (t :: ts) rest

/-- What a greedy reader takes from a place in the context leaves another place in it. -/
structure Absorbs (src : Source) (k : List Token → Prop) : Prop where
  behind : ∀ {ts}, k ts → ∃ mid, Behind src ts mid ∧ k mid
  unit : ∀ {t ts}, k (t :: ts) → t.kind = .word → src.isUnit t.content = true →
    ∃ mid, Readable src (.power true) (t :: ts) mid ∧ k mid
  paren : ∀ {p ts}, k (p :: ts) → p.kind = .leftParen →
    ∃ mid, (∀ t u, t.kind = .word → Readable src (.operand u) (t :: p :: ts) mid) ∧ k mid

/-- The context behind an operand: its factorial signs, its exponent, and then the context. -/
def AfterOperand (src : Source) (k : List Token → Prop) (ts : List Token) : Prop :=
  ∃ mid, Behind src ts mid ∧ k mid

/-- The context behind an operand of a row: the rest of the row and then the context. -/
def AfterRow (src : Source) (r : Row) (k : List Token → Prop) (ts : List Token) : Prop :=
  ∃ mid, Loop src r ts mid ∧ k mid

variable {src : Source} {g : Phrase} {k : List Token → Prop}
  {w ts mid rest tail : List Token}

/-! ### Phrases with two parts -/

/-- Two phrases that are read at all are read at one depth. -/
theorem Readable.both {g' : Phrase} {ts' rest' : List Token} (h : Readable src g ts rest)
    (h' : Readable src g' ts' rest') :
    ∃ d e e', Reads src (d + 1) g ts e rest ∧ Reads src d g' ts' e' rest' := by
  obtain ⟨d, e, h⟩ := h
  obtain ⟨d', e', h'⟩ := h'
  exact ⟨max d d', e, e', h.mono (by omega), h'.mono (by omega)⟩

theorem Readable.more {r : Row} {op : BinaryOp} (h : Readable src (.rowPart r) ts mid)
    (h' : Readable src (.next r op) mid rest) : Readable src (.rowPart r) ts rest := by
  obtain ⟨d, e, e', h, h'⟩ := h.both h'
  exact ⟨d + 1, _, .more h (h'.mono (by omega))⟩

theorem Readable.exponent {u : Bool} {t : Token} (h : Readable src (.factorials u) ts (t :: mid))
    (ht : t.kind = .power) (h' : Readable src (.signed false) mid rest) :
    Readable src (.power u) ts rest := by
  obtain ⟨d, e, e', h, h'⟩ := h.both h'
  exact ⟨d + 1, _, .exponent h ht h'⟩

theorem Readable.assign {t : Token} (h : Readable src .condition ts (t :: mid))
    (ht : t.kind = .assign) (h' : Readable src .assignment mid rest) :
    Readable src .assignment ts rest := by
  obtain ⟨d, e, e', h, h'⟩ := h.both h'
  exact ⟨d + 1, _, .assign h ht h'⟩

theorem Readable.conditional {t₁ t₂ : Token} {mid' : List Token}
    (h : Readable src .operation ts (t₁ :: mid)) (h₁ : t₁.kind = .question)
    (h' : Readable src .condition mid (t₂ :: mid')) (h₂ : t₂.kind = .colon)
    (h'' : Readable src .condition mid' rest) : Readable src .condition ts rest := by
  obtain ⟨d, e, e', h, h'⟩ := h.both h'
  obtain ⟨d'', e'', h''⟩ := h''
  exact ⟨max d d'' + 1, _, .conditional (h.mono (by omega)) h₁ (h'.mono (by omega)) h₂
    (h''.mono (by omega))⟩

theorem Readable.nextArgument {t : Token} (h : Readable src .openCall ts (t :: mid))
    (ht : t.kind = .separator) (h' : Readable src .assignment mid rest) :
    Readable src .openCall ts rest := by
  obtain ⟨d, e, e', h, h'⟩ := h.both h'
  cases h with
  | firstArgument hw hp ha => exact ⟨d + 1, _, .nextArgument (.firstArgument hw hp ha) ht h'⟩
  | nextArgument hc hs ha => exact ⟨d + 1, _, .nextArgument (.nextArgument hc hs ha) ht h'⟩

theorem Readable.call {u : Bool} {p : Token} (h : Readable src .openCall ts (p :: rest))
    (hp : p.kind = .rightParen) : Readable src (.operand u) ts rest := by
  obtain ⟨d, e, h⟩ := h
  cases h with
  | firstArgument hw hp' ha => exact ⟨_, _, .call (.firstArgument hw hp' ha) hp⟩
  | nextArgument hc hs ha => exact ⟨_, _, .call (.nextArgument hc hs ha) hp⟩

/-! ### Loops and contexts -/

theorem Loop.whole {r : Row} (hl : Loop src r mid rest) (h : Readable src (.rowPart r) ts mid) :
    Readable src (.row r) ts rest := by
  induction hl with
  | stop hs =>
    obtain ⟨d, e, h⟩ := h
    exact ⟨d, e, .whole h hs⟩
  | turn hn _ ih => exact ih (h.more hn)

/-- The first operand of a row and then its loop. -/
theorem Loop.first {r : Row} (hl : Loop src r mid rest) (h : Readable src r.operand ts mid) :
    Readable src (.row r) ts rest := by
  obtain ⟨d, e, h⟩ := h
  exact hl.whole ⟨d, e, .first h⟩

theorem Behind.power {u : Bool} (hb : Behind src mid rest)
    (h : Readable src (.factorials u) ts mid) : Readable src (.power u) ts rest := by
  induction hb with
  | done hf hp =>
    obtain ⟨d, e, h⟩ := h
    exact ⟨d, e, .noExponent h hf hp⟩
  | factorial ht _ ih =>
    obtain ⟨d, e, h⟩ := h
    exact ih ⟨d, _, .factorial h ht⟩
  | exponent ht he => exact h.exponent ht he

theorem Behind.eq_of_kind (h : Behind src ts rest) (hf : kindOf ts ≠ .factorial)
    (hp : kindOf ts ≠ .power) : rest = ts := by
  cases h with
  | done _ _ => rfl
  | factorial ht _ => exact absurd ht hf
  | exponent ht _ => exact absurd ht hp

theorem Absorbs.afterOperand (hk : Absorbs src k) : Absorbs src (AfterOperand src k) := by
  refine ⟨fun {ts} h => ?_, fun {t ts} h ht hu => ?_, fun {p ts} h hp => ?_⟩
  · obtain ⟨mid, hb, hm⟩ := h
    exact ⟨mid, hb, hk.behind hm⟩
  · obtain ⟨mid, hb, hm⟩ := h
    obtain rfl := hb.eq_of_kind (by simp [ht]) (by simp [ht])
    obtain ⟨after, hr, ha⟩ := hk.unit hm ht hu
    exact ⟨after, hr, hk.behind ha⟩
  · obtain ⟨mid, hb, hm⟩ := h
    obtain rfl := hb.eq_of_kind (by simp [hp]) (by simp [hp])
    obtain ⟨after, hr, ha⟩ := hk.paren hm hp
    exact ⟨after, hr, hk.behind ha⟩

/-- What goes on with a row is no factorial sign and no exponent. -/
theorem Readable.next_kind {r : Row} {op : BinaryOp} (h : Readable src (.next r op) ts rest) :
    kindOf ts ≠ .factorial ∧ kindOf ts ≠ .power := by
  obtain ⟨d, e, h⟩ := h
  cases h with
  | @nextLevel _ l _ t _ _ _ _ ht _ =>
    cases l <;> cases hk : t.kind <;> simp_all [Level.operator?]
  | @nextFactor _ t _ _ _ _ ht _ => cases hk : t.kind <;> simp_all [factorOperator?]
  | nextQuotient ht _ | factorUnit ht _ _ _ | factorName ht _ _ | factorParen ht _ _
  | nextUnit ht _ _ => simp [ht]

/-- Only a unit word with what belongs to it goes on with a row from a unit word. -/
theorem Readable.next_unit {r : Row} {op : BinaryOp} {t : Token}
    (hin : src.isUnit Name.reserved = false) (h : Readable src (.next r op) (t :: ts) rest)
    (ht : t.kind = .word) (hu : src.isUnit t.content = true) :
    Readable src (.power true) (t :: ts) rest := by
  obtain ⟨d, e, h⟩ := h
  cases h with
  | @nextLevel _ l _ _ _ _ _ _ hop _ =>
    -- the reserved word is the only operator that is a word
    cases l <;> simp [Level.operator?, ht] at hop
    rw [hop.1, hin] at hu
    cases hu
  | nextFactor hop _ => simp [factorOperator?, ht] at hop
  | nextQuotient hq _ => simp [ht] at hq
  | factorName _ _ hn => simp [hu] at hn
  | factorParen hp _ _ => simp [ht] at hp
  | factorUnit _ _ _ h | nextUnit _ _ h => exact ⟨_, _, h⟩

/-- A parenthesis that goes on with a row is read as well when it belongs to a call. -/
theorem Readable.next_paren {r : Row} {op : BinaryOp} {p t : Token} {u : Bool}
    (h : Readable src (.next r op) (p :: ts) rest) (hp : p.kind = .leftParen)
    (ht : t.kind = .word) : Readable src (.operand u) (t :: p :: ts) rest := by
  obtain ⟨d, e, h⟩ := h
  cases h with
  | @nextLevel _ l _ _ _ _ _ _ hop _ => cases l <;> simp [Level.operator?, hp] at hop
  | nextFactor hop _ => simp [factorOperator?, hp] at hop
  | nextQuotient hq _ => simp [hp] at hq
  | factorUnit hw _ _ _ | factorName hw _ _ | nextUnit hw _ _ => simp [hp] at hw
  | factorParen _ ha hc => exact ⟨_, _, .call (.firstArgument ht hp ha) hc⟩

/-- The rest of a row in front of a context absorbs what the context does, if the context may
follow the row at once. -/
theorem Absorbs.afterRow {r : Row} (hin : src.isUnit Name.reserved = false)
    (hk : Absorbs src k) (lift : ∀ {ts}, k ts → AfterRow src r k ts) :
    Absorbs src (AfterRow src r k) := by
  refine ⟨fun {ts} h => ?_, fun {t ts} h ht hu => ?_, fun {p ts} h hp => ?_⟩
  · obtain ⟨m, hl, hm⟩ := h
    cases hl with
    | stop hs =>
      obtain ⟨mid, hb, hmid⟩ := hk.behind hm
      exact ⟨mid, hb, lift hmid⟩
    | turn hn hl =>
      obtain ⟨hf, hp⟩ := hn.next_kind
      exact ⟨ts, .done hf hp, m, .turn hn hl, hm⟩
  · obtain ⟨m, hl, hm⟩ := h
    cases hl with
    | stop hs =>
      obtain ⟨mid, hr, hmid⟩ := hk.unit hm ht hu
      exact ⟨mid, hr, lift hmid⟩
    | turn hn hl => exact ⟨_, hn.next_unit hin ht hu, m, hl, hm⟩
  · obtain ⟨m, hl, hm⟩ := h
    cases hl with
    | stop hs =>
      obtain ⟨mid, hr, hmid⟩ := hk.paren hm hp
      exact ⟨mid, hr, lift hmid⟩
    | turn hn hl => exact ⟨_, fun t u ht => hn.next_paren hp ht, m, hl, hm⟩

/-- A number may take any unit words from the context. -/
theorem Absorbs.afterUnits (hk : Absorbs src k) {ts : List Token} (h : k ts) :
    AfterRow src .units k ts := by
  induction hn : ts.length using Nat.strongRecOn generalizing ts with
  | ind n ih =>
    cases ts with
    | nil => exact ⟨[], .stop (Row.stops_nil _), h⟩
    | cons t tail =>
      cases hu : Row.units.goesOn src t with
      | false => exact ⟨t :: tail, .stop (Row.stops_cons.2 hu), h⟩
      | true =>
        simp only [Row.goesOn, Bool.and_eq_true, beq_iff_eq] at hu
        obtain ⟨mid, ⟨d, e, hr⟩, hm⟩ := hk.unit h hu.1 hu.2
        obtain ⟨after, hl, ha⟩ := ih _ (hn ▸ hr.consumed.length_lt) hm rfl
        exact ⟨after, .turn ⟨d + 1, e, .nextUnit hu.1 hu.2 hr⟩ hl, ha⟩

/-- An integer quotient may end in front of the context, if no sign of one follows. -/
theorem afterQuotient (hq : ∀ {ts}, k ts → kindOf ts ≠ .intDivide) (h : k ts) :
    AfterRow src .quotient k ts := by
  refine ⟨ts, .stop fun t ht => ?_, h⟩
  have hkind := hq h
  cases ts with
  | nil => cases ht
  | cons t' ts =>
    obtain rfl : t' = t := by simpa using ht
    simpa [Row.goesOn] using hkind

/-! ### Where operations end -/

/-- The first of the tokens, if there is one, goes on with no operation of the levels. -/
def Ends (src : Source) (ls : List Level) (ts : List Token) : Prop :=
  ∀ t ∈ ts.head?, (∀ l ∈ ls, l.operator? t = none) ∧ Row.product.goesOn src t = false ∧
    t.kind ≠ .intDivide ∧ t.kind ≠ .factorial ∧ t.kind ≠ .power

theorem Level.operator?_unique {l l' : Level} {t : Token} {op op' : BinaryOp}
    (h : l.operator? t = some op) (h' : l'.operator? t = some op') : l = l' := by
  cases l <;> cases l' <;> cases hk : t.kind <;> simp_all [operator?]

/-- An operator of a level ends the operations of all others. -/
theorem Level.ends {l : Level} {t : Token} {op : BinaryOp} {ls : List Level}
    (h : l.operator? t = some op) (hl : l ∉ ls) : Ends src ls (t :: ts) := by
  rintro t' ht'
  obtain rfl : t = t' := by simpa using ht'
  refine ⟨fun l' hl' => ?_, ?_⟩
  · cases h' : l'.operator? t with
    | none => rfl
    | some op' => exact absurd (operator?_unique h h' ▸ hl') hl
  · cases l <;> cases hk : t.kind <;>
      simp_all [operator?, Row.goesOn, factorOperator?]

/-- Whether a kind closes what is written around an operation, or ends the text. -/
def TokenKind.isClosing : TokenKind → Bool
  | .question | .colon | .assign | .rightParen | .separator | .endOfLine => true
  | _ => false

theorem ends_of_isClosing {ls : List Level} (h : TokenKind.isClosing (kindOf ts) = true) :
    Ends src ls ts := by
  rintro t ht
  obtain ⟨tail, rfl⟩ : ∃ tail, ts = t :: tail := by
    cases ts with
    | nil => cases ht
    | cons t' tail => exact ⟨tail, by rw [Option.mem_some.1 ht]⟩
  rw [kindOf_cons] at h
  refine ⟨fun l _ => ?_, ?_⟩
  · cases l <;> cases hk : t.kind <;> simp_all [Level.operator?, TokenKind.isClosing]
  · cases hk : t.kind <;> simp_all [Row.goesOn, factorOperator?, TokenKind.isClosing]

theorem Ends.tighter {l : Level} {ls : List Level} (h : Ends src (l :: ls) ts) : Ends src ls ts :=
  fun t ht =>
    have ⟨hl, hrest⟩ := h t ht
    ⟨fun l' hl' => hl l' (List.mem_cons_of_mem _ hl'), hrest⟩

theorem Ends.stops {ls : List Level} (h : Ends src ls ts) : (Row.ofLevels ls).Stops src ts := by
  intro t ht
  have ⟨hl, hp, _⟩ := h t ht
  cases ls with
  | nil => exact hp
  | cons l ls => simp [Row.ofLevels, Row.goesOn, hl l (List.mem_cons_self ..)]

/-- In front of the loop over a level, the operations of the tighter levels end. -/
theorem Ends.ofLoop {l : Level} {ls : List Level} (hl : l ∉ ls) (h : Ends src (l :: ls) rest)
    (hloop : Loop src (.level l ls) ts rest) : Ends src ls ts := by
  cases hloop with
  | stop _ => exact h.tighter
  | turn hn _ =>
    obtain ⟨d, e, hn⟩ := hn
    cases hn with
    | nextLevel ht _ => exact Level.ends ht hl

/-- Where operations end, there is nothing to absorb. -/
theorem Ends.absorbs {ls : List Level} (hin : src.isUnit Name.reserved = false)
    (h : Ends src ls rest) : Absorbs src (· = rest) := by
  refine ⟨fun {ts} hts => ?_, fun {t ts} hts ht hu => ?_, fun {p ts} hts hp => ?_⟩
  · subst hts
    refine ⟨ts, .done ?_ ?_, rfl⟩ <;> cases ts with
    | nil => simp
    | cons t ts => simp [h t rfl]
  · subst hts
    have ⟨_, hp, _⟩ := h t rfl
    simp only [Row.goesOn, ht, Bool.or_eq_false_iff, beq_self_eq_true, Bool.true_and] at hp
    have : t.content = Name.reserved := by simpa using hp.1.2
    rw [this, hin] at hu
    cases hu
  · subst hts
    have ⟨_, hg, _⟩ := h p rfl
    simp [Row.goesOn, hp] at hg

/-- The context of a factor: the rest of the product, up to where operations end. -/
theorem Ends.absorbs_factors {ls : List Level} (hin : src.isUnit Name.reserved = false)
    (h : Ends src ls rest) : Absorbs src (AfterRow src .product (· = rest)) := by
  refine (h.absorbs hin).afterRow hin fun {ts} hts => ?_
  subst hts
  refine ⟨ts, .stop fun t ht => ?_, rfl⟩
  exact (h t ht).2.1

/-- No factor starts with the sign of integer quotients. -/
theorem Ends.factors_kind {ls : List Level} (h : Ends src ls rest)
    (hts : AfterRow src .product (· = rest) ts) : kindOf ts ≠ .intDivide := by
  obtain ⟨mid, hl, rfl⟩ := hts
  cases hl with
  | stop _ =>
    cases ts with
    | nil => simp
    | cons t ts => exact (h t rfl).2.2.1
  | turn hn _ =>
    obtain ⟨d, e, hn⟩ := hn
    cases hn with
    | @nextFactor _ t _ _ _ _ ht _ =>
      intro hk
      simp [factorOperator?, show t.kind = .intDivide from hk] at ht
    | factorUnit ht _ _ _ | factorName ht _ _ | factorParen ht _ _ => simp [ht]

/-! ### Every sentence is read -/

/-- What the readers do with a sentence of a symbol in front of other tokens. -/
def Symbol.Completes (src : Source) : Symbol → List Token → Prop
  | assignment, w => ∀ tail, TokenKind.isClosing (kindOf tail) = true →
    kindOf tail ≠ .question → kindOf tail ≠ .assign → Readable src .assignment (w ++ tail) tail
  | condition, w => ∀ tail, TokenKind.isClosing (kindOf tail) = true →
    kindOf tail ≠ .question → Readable src .condition (w ++ tail) tail
  | operation ls, w => ls.Nodup → ∀ tail rest, Ends src ls rest →
    Loop src (Row.ofLevels ls) tail rest → Readable src (.levels ls) (w ++ tail) rest
  | quotient, w => ∀ k, Absorbs src k → (∀ {ts}, k ts → kindOf ts ≠ .intDivide) →
    ∀ tail, AfterRow src .quotient k tail →
      ∃ mid, Readable src (.row .quotient) (w ++ tail) mid ∧ k mid
  | signed u, w => ∀ k, Absorbs src k → ∀ tail, k tail →
    ∃ mid, Readable src (.signed u) (w ++ tail) mid ∧ k mid
  | power u, w => ∀ k, Absorbs src k → ∀ tail, k tail →
    ∃ mid, Readable src (.power u) (w ++ tail) mid ∧ k mid
  | factorials u, w => ∀ k, Absorbs src k → ∀ tail, AfterOperand src k tail →
    ∃ mid, Readable src (.power u) (w ++ tail) mid ∧ k mid
  | operand u, w => ∀ k, Absorbs src k → ∀ tail, k tail →
    ∃ mid, Readable src (.operand u) (w ++ tail) mid ∧ k mid
  | measure, w => ∀ k, Absorbs src k → ∀ tail, AfterRow src .units k tail →
    ∃ mid, Readable src (.row .units) (w ++ tail) mid ∧ k mid
  | arguments, w => ∀ tail, TokenKind.isClosing (kindOf tail) = true →
    kindOf tail ≠ .question → kindOf tail ≠ .assign → ∀ t p, t.kind = .word →
    p.kind = .leftParen → Readable src .openCall (t :: p :: (w ++ tail)) tail

/-- **Every sentence is read,** in front of whatever may follow it. -/
theorem Derives.completes {s : Symbol} (hin : src.isUnit Name.reserved = false)
    (h : Derives src.isUnit s w) : s.Completes src w := by
  induction h with
  | condition _ ih =>
    intro tail hc hq ha
    obtain ⟨d, e, h⟩ := ih tail hc hq
    exact ⟨d, e, .plainCondition h ha⟩
  | @assign w t v _ ht _ ih₁ ih₂ =>
    intro tail hc hq ha
    have h₁ := ih₁ (t :: (v ++ tail)) (by simp [ht, TokenKind.isClosing]) (by simp [ht])
    simpa using h₁.assign ht (ih₂ tail hc hq ha)
  | operation _ ih =>
    intro tail hc hq
    obtain ⟨d, e, h⟩ := ih (by decide) tail tail (ends_of_isClosing hc)
      (.stop (ends_of_isClosing hc).stops)
    exact ⟨d, e, .plainOperation h hq⟩
  | @conditional w t₁ v₁ t₂ v₂ _ h₁ _ h₂ _ ih₁ ih₂ ih₃ =>
    intro tail hc hq
    have he : Ends src Level.all (t₁ :: (v₁ ++ t₂ :: (v₂ ++ tail))) :=
      ends_of_isClosing (by simp [h₁, TokenKind.isClosing])
    have hw := ih₁ (by decide) _ _ he (.stop he.stops)
    have hy := ih₂ (t₂ :: (v₂ ++ tail)) (by simp [h₂, TokenKind.isClosing]) (by simp [h₂])
    simpa using Readable.conditional hw h₁ hy h₂ (ih₃ tail hc hq)
  | @tighter l ls w _ ih =>
    intro hnd tail rest he hl
    obtain ⟨hmem, hnd⟩ := List.nodup_cons.1 hnd
    have hends := he.ofLoop hmem hl
    exact hl.first (ih hnd tail tail hends (.stop hends.stops))
  | @level l ls w t op v _ ht _ ih₁ ih₂ =>
    intro hnd tail rest he hl
    obtain ⟨hmem, hnd'⟩ := List.nodup_cons.1 hnd
    have hends := he.ofLoop hmem hl
    obtain ⟨d, e, hv⟩ := ih₂ hnd' tail tail hends (.stop hends.stops)
    have hturn : Readable src (.next (.level l ls) op) (t :: (v ++ tail)) tail :=
      ⟨d, e, .nextLevel ht hv⟩
    simpa using ih₁ hnd (t :: (v ++ tail)) rest he (.turn hturn hl)
  | firstFactor _ ih =>
    intro _ tail rest he hl
    have hq : AfterRow src .quotient (AfterRow src .product (· = rest)) tail :=
      afterQuotient he.factors_kind ⟨rest, hl, rfl⟩
    obtain ⟨mid, hr, m, hl', rfl⟩ := ih _ (he.absorbs_factors hin) he.factors_kind tail hq
    exact hl'.first hr
  | @factor w t op v _ ht _ ih₁ ih₂ =>
    intro hnd tail rest he hl
    have hq : AfterRow src .quotient (AfterRow src .product (· = rest)) tail :=
      afterQuotient he.factors_kind ⟨rest, hl, rfl⟩
    obtain ⟨mid, ⟨d, e, hr⟩, m, hl', rfl⟩ :=
      ih₂ _ (he.absorbs_factors hin) he.factors_kind tail hq
    have hturn : Readable src (.next .product op) (t :: (v ++ tail)) mid :=
      ⟨d, e, .nextFactor ht hr⟩
    simpa using ih₁ hnd (t :: (v ++ tail)) m he (.turn hturn hl')
  | @factorUnit w t v _ ht hu _ ih₁ ih₂ =>
    intro hnd tail rest he hl
    obtain ⟨mid, ⟨d, e, hr⟩, m, hl', rfl⟩ :=
      ih₂ _ (he.absorbs_factors hin) tail ⟨rest, hl, rfl⟩
    have hword : t.content ≠ Name.reserved := fun h => by rw [h, hin] at hu; cases hu
    have hturn : Readable src (.next .product .multiply) (t :: (v ++ tail)) mid :=
      ⟨d, e, .factorUnit ht hword hu hr⟩
    simpa using ih₁ hnd (t :: (v ++ tail)) m he (.turn hturn hl')
  | @factorName w t _ ht hr hu ih =>
    intro hnd tail rest he hl
    have hturn : Readable src (.next .product .multiply) (t :: tail) tail :=
      ⟨0, _, .factorName ht hr hu⟩
    simpa using ih hnd (t :: tail) rest he (.turn hturn hl)
  | @factorParen w t v p _ ht _ hp ih₁ ih₂ =>
    intro hnd tail rest he hl
    obtain ⟨d, e, hr⟩ := ih₂ (p :: tail) (by simp [hp, TokenKind.isClosing]) (by simp [hp])
      (by simp [hp])
    have hturn : Readable src (.next .product .multiply) (t :: (v ++ p :: tail)) tail :=
      ⟨d + 1, e, .factorParen ht hr hp⟩
    simpa using ih₁ hnd (t :: (v ++ p :: tail)) rest he (.turn hturn hl)
  | firstSigned _ ih =>
    intro k hk hq tail h
    obtain ⟨mid, hr, m, hl, hm⟩ := ih _ (hk.afterRow hin (afterQuotient hq)) tail h
    exact ⟨m, hl.first hr, hm⟩
  | @divide w t v _ ht _ ih₁ ih₂ =>
    intro k hk hq tail h
    obtain ⟨mid, ⟨d, e, hr⟩, m, hl, hm⟩ := ih₂ _ (hk.afterRow hin (afterQuotient hq)) tail h
    have hturn : Readable src (.next .quotient .intDivide) (t :: (v ++ tail)) mid :=
      ⟨d, e, .nextQuotient ht hr⟩
    simpa using ih₁ k hk hq (t :: (v ++ tail)) ⟨m, .turn hturn hl, hm⟩
  | unsigned _ ih =>
    intro k hk tail h
    obtain ⟨mid, ⟨d, e, hr⟩, hm⟩ := ih k hk tail h
    exact ⟨mid, ⟨d, e, .unsigned (hr.no_sign rfl) hr⟩, hm⟩
  | sign ht _ ih =>
    intro k hk tail h
    obtain ⟨mid, ⟨d, e, hr⟩, hm⟩ := ih k hk tail h
    exact ⟨mid, ⟨d + 1, _, .sign ht hr⟩, hm⟩
  | noExponent _ ih => exact fun k hk tail h => ih k hk tail (hk.behind h)
  | @exponent u w t v _ ht _ ih₁ ih₂ =>
    intro k hk tail h
    obtain ⟨mid, hr, hm⟩ := ih₂ k hk tail h
    simpa using ih₁ k hk (t :: (v ++ tail)) ⟨mid, .exponent ht hr, hm⟩
  | noFactorial _ ih =>
    intro k hk tail h
    obtain ⟨mid, ⟨d, e, hr⟩, m, hb, hm⟩ := ih _ hk.afterOperand tail h
    exact ⟨m, hb.power ⟨d, e, .noFactorial hr⟩, hm⟩
  | @factorial u w t _ ht ih =>
    intro k hk tail h
    obtain ⟨m, hb, hm⟩ := h
    simpa using ih k hk (t :: tail) ⟨m, .factorial ht hb, hm⟩
  | @paren u t w p ht _ hp ih =>
    intro k hk tail h
    obtain ⟨d, e, hr⟩ := ih (p :: tail) (by simp [hp, TokenKind.isClosing]) (by simp [hp])
      (by simp [hp])
    exact ⟨tail, ⟨d + 1, e, by simpa using Reads.paren ht hr hp⟩, h⟩
  | @scalar u t ht =>
    intro k hk tail h
    cases u with
    | false => exact ⟨tail, ⟨0, _, .bareNumber (.scalar ht)⟩, h⟩
    | true =>
      obtain ⟨m, hl, hm⟩ := hk.afterUnits h
      obtain ⟨d, e, hr⟩ : Readable src (.row .units) (t :: tail) m :=
        hl.first ⟨0, _, .scalar ht⟩
      exact ⟨m, ⟨d, e, .numberWithUnits hr⟩, hm⟩
  | @word u t ht =>
    intro k hk tail h
    by_cases hp : kindOf tail = .leftParen
    · obtain ⟨p, after, rfl, hp⟩ := exists_cons_of_kindOf hp (by decide)
      obtain ⟨mid, hr, hm⟩ := hk.paren h hp
      exact ⟨mid, hr t u ht, hm⟩
    · cases hu : src.isUnit t.content with
      | false => exact ⟨tail, ⟨0, _, .name ht hp hu⟩, h⟩
      | true => exact ⟨tail, ⟨0, _, .unit ht hp hu⟩, h⟩
  | emptyCall ht hp hq => exact fun k hk tail h => ⟨tail, ⟨0, _, .emptyCall ht hp hq⟩, h⟩
  | @call u t p w q ht hp _ hq ih =>
    intro k hk tail h
    have hopen := ih (q :: tail) (by simp [hq, TokenKind.isClosing]) (by simp [hq])
      (by simp [hq]) t p ht hp
    have hr : Readable src (.operand u) (t :: p :: (w ++ q :: tail)) tail := hopen.call hq
    exact ⟨tail, by simpa using hr, h⟩
  | measure _ ih =>
    intro k hk tail h
    obtain ⟨m, ⟨d, e, hr⟩, hm⟩ := ih k hk tail (hk.afterUnits h)
    exact ⟨m, ⟨d, e, .numberWithUnits hr⟩, hm⟩
  | @firstUnit s t v hs ht hu _ ih =>
    intro k hk tail h
    obtain ⟨mid, ⟨d, e, hr⟩, m, hl, hm⟩ := ih _ (hk.afterRow hin hk.afterUnits) tail h
    have hturn : Readable src (.next .units .multiply) (t :: (v ++ tail)) mid :=
      ⟨d + 1, e, .nextUnit ht hu hr⟩
    exact ⟨m, (Loop.turn hturn hl).first ⟨0, _, .scalar hs⟩, hm⟩
  | @moreUnits w t v _ ht hu _ ih₁ ih₂ =>
    intro k hk tail h
    obtain ⟨mid, ⟨d, e, hr⟩, m, hl, hm⟩ := ih₂ _ (hk.afterRow hin hk.afterUnits) tail h
    have hturn : Readable src (.next .units .multiply) (t :: (v ++ tail)) mid :=
      ⟨d + 1, e, .nextUnit ht hu hr⟩
    simpa using ih₁ k hk (t :: (v ++ tail)) ⟨m, .turn hturn hl, hm⟩
  | firstArgument _ ih =>
    intro tail hc hq ha t p ht hp
    obtain ⟨d, e, hr⟩ := ih tail hc hq ha
    exact ⟨d + 1, _, .firstArgument ht hp hr⟩
  | @nextArgument w s v _ hs _ ih₁ ih₂ =>
    intro tail hc hq ha t p ht hp
    have hw := ih₁ (s :: (v ++ tail)) (by simp [hs, TokenKind.isClosing]) (by simp [hs])
      (by simp [hs]) t p ht hp
    simpa using hw.nextArgument hs (ih₂ tail hc hq ha)

/-! ### The texts that are accepted -/

/-- The tokens of a text before its end. -/
def sentenceOf (marks : Marks) (text : String) : List Token :=
  (Token.scan marks text).takeWhile fun t => t.kind != .endOfLine

/-- A beginning of proper tokens in front of the end is all that stands before the end. -/
theorem Consumed.takeWhile (h : Consumed (w ++ rest) rest) (hend : kindOf rest = .endOfLine) :
    (w ++ rest).takeWhile (fun t => t.kind != .endOfLine) = w := by
  obtain ⟨seg, -, heq, hp⟩ := h
  obtain rfl := List.append_cancel_right heq
  rw [List.takeWhile_append_of_pos fun t ht => by simpa using (hp t ht).1]
  cases rest with
  | nil => simp
  | cons t rest =>
    rw [kindOf_cons] at hend
    simp [hend]

theorem sentenceOf_append (marks : Marks) (text : String) :
    ∃ last, Token.scan marks text = sentenceOf marks text ++ [last] ∧ last.kind = .endOfLine := by
  have hs : Token.Scans marks 0 text.toList (Token.scan marks text) := Token.scan_eq_iff.1 rfl
  obtain ⟨body, last, heq, hl, hb⟩ := hs.shape
  refine ⟨last, ?_, hl⟩
  rw [sentenceOf, heq, List.takeWhile_append_of_pos fun t ht => by simpa using hb t ht]
  simp [hl]

/-- **The readers accept exactly the grammar.** For any marks and any unit words but the reserved
one, and whatever depth beyond the number of tokens, an expression is read from a text exactly
when the tokens before its end are a sentence. -/
theorem accepts_iff_derives {marks : Marks} {isUnit : String → Bool} {text : String} {depth : Nat}
    (hin : isUnit Name.reserved = false) (hd : (Token.scan marks text).length < depth) :
    (∃ e, readWithin depth marks isUnit text = .ok e) ↔
      Derives isUnit .assignment (sentenceOf marks text) := by
  constructor
  · rintro ⟨e, h⟩
    obtain ⟨k, rest, -, hr, hend⟩ := ofTokens_eq_ok_iff.1 h
    obtain ⟨w, heq, hw⟩ := hr.derives
    have hc := hr.consumed
    rw [heq] at hc
    have : sentenceOf marks text = w := by rw [sentenceOf, heq, hc.takeWhile hend]
    exact this ▸ hw
  · intro h
    obtain ⟨last, heq, hl⟩ := sentenceOf_append marks text
    have hc : Symbol.Completes ⟨text.toList, isUnit⟩ .assignment (sentenceOf marks text) :=
      h.completes hin
    obtain ⟨d, e, hr⟩ := hc [last] (by simp [hl, TokenKind.isClosing]) (by simp [hl])
      (by simp [hl])
    rw [← heq] at hr
    obtain ⟨k, rfl⟩ : ∃ k, depth = k + 1 := ⟨depth - 1, by omega⟩
    exact ⟨e, ofTokens_eq_ok_iff.2 ⟨k, [last], rfl, hr.within.mono (by omega), hl⟩⟩

/-- An area times a number in parentheses, with one unit word. -/
theorem accepts_area : (· == "m") Name.reserved = false ∧
    (Token.scan .standard "2 m^2 (3)").length < deepest ∧
    ((∃ e, readWithin deepest .standard (· == "m") "2 m^2 (3)" = .ok e) ↔
      Derives (· == "m") .assignment (sentenceOf .standard "2 m^2 (3)")) :=
  ⟨by decide, by decide +kernel, accepts_iff_derives (by decide) (by decide +kernel)⟩

end Expr
end QuantityCalculus
