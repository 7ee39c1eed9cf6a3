/-
# The readers decide the relation

The readers of an expression return an expression and the tokens that are left exactly where
`Reads` holds, at the same depth. Both directions go function by function: what the relation
has is what the function returns (`Reads.evaluates`, by induction on the relation), and what
the function returns the relation has (`reads_of_*`, by recursion on the depth).

A row is read by a loop with fuel. In the first direction a part of a row stands for the state
of that loop: whatever the loop gives from there is what the row gives. In the second one the
part grows by an operand at every turn of the loop.

**Main statement.** `ofTokens_eq_ok_iff`: an expression is read from the tokens exactly when the
relation has it with nothing left but the end.
-/

import QuantityCalculus.Proofs.Except
import QuantityCalculus.Proofs.Expr.Reads

namespace QuantityCalculus

namespace Expr

variable {src : Source} {d : Nat} {g : Phrase} {ts mid rest : List Token} {e : Expr}

/-- No phrase starts with a closing parenthesis. -/
theorem Reads.kindOf_ne_rightParen (h : Reads src d g ts e rest) : kindOf ts ≠ .rightParen := by
  induction h with
  | plainCondition _ _ ih | plainOperation _ _ ih | whole _ _ ih | first _ ih
  | unsigned _ _ ih | noExponent _ _ _ ih | noFactorial _ ih | bareNumber _ ih
  | numberWithUnits _ ih | assign _ _ _ ih _ | conditional _ _ _ _ _ ih _ _ | more _ _ ih _
  | exponent _ _ _ ih _ | factorial _ _ ih | nextArgument _ _ _ ih _ | call _ _ ih
  | factorUnit _ _ _ _ ih | nextUnit _ _ _ ih => exact ih
  | @nextLevel _ l _ t _ _ _ _ ht _ _ =>
    intro hk
    rw [kindOf_cons] at hk
    cases l <;> simp [Level.operator?, hk] at ht
  | nextFactor ht _ _ =>
    intro hk
    rw [kindOf_cons] at hk
    simp [factorOperator?, hk] at ht
  | sign ht _ _ =>
    intro hk
    rw [kindOf_cons] at hk
    simp [leadingOperator?, hk] at ht
  | nextQuotient ht _ _ | factorName ht _ _ | factorParen ht _ _ _ | paren ht _ _ _ | scalar ht
  | unit ht _ _ | name ht _ _ | emptyCall ht _ _ | firstArgument ht _ _ _ =>
    rw [kindOf_cons, ht]
    decide

/-! ### What the relation has, the readers return -/

/-- The reader of the operations over some levels and products. -/
def levelsReader (src : Source) (inner : Readers) (ls : List Level) : Reader :=
  ls.foldr (fun l operand => chain src l.operator? operand) (product src inner)

/-- The reader of a row. -/
def Row.reader (src : Source) (inner : Readers) : Row → Reader
  | level l tighter => levelsReader src inner (l :: tighter)
  | product => Expr.product src inner
  | quotient => Expr.quotient src inner
  | units => elementary src inner true

/-- What follows an operand of a row. -/
def Row.step (src : Source) (inner : Readers) : Row → Next
  | level l tighter => nextOperand l.operator? (levelsReader src inner tighter)
  | product => nextFactor src inner (Expr.quotient src inner)
  | quotient => nextOperand quotientOperator? (Expr.signed src inner)
  | units => Expr.nextUnit src inner

/-- The arguments behind one that was just read: those after a separator, or no more. -/
def moreArguments (inner : Readers) (fuel : Nat) (ts : List Token) :
    Except SyntaxError (List Expr × List Token) :=
  if kindOf ts = .separator then arguments inner fuel ts.tail else .ok ([], ts)

/-- What the readers make of a phrase. A phrase that is a state of a loop stands for what the
rest of the loop makes of it. -/
def Evaluates (src : Source) (d : Nat) : Phrase → List Token → Expr → List Token → Prop
  | .assignment, ts, e, rest => assignment src (readers src d) ts = .ok (e, rest)
  | .condition, ts, e, rest => condition src (readers src d) ts = .ok (e, rest)
  | .row r, ts, e, rest => r.reader src (readers src d) ts = .ok (e, rest)
  | .rowPart r, ts, e, rest => ∀ result,
    (∀ fuel, rest.length ≤ fuel →
      groupLeft src (r.step src (readers src d)) (columnOf ts) fuel e rest = .ok result) →
    r.reader src (readers src d) ts = .ok result
  | .next r op, ts, e, rest => r.step src (readers src d) ts = .ok (some (op, e, rest))
  | .signed true, ts, e, rest => Expr.signed src (readers src d) ts = .ok (e, rest)
  | .signed false, ts, e, rest => Expr.exponent src (readers src d) ts = .ok (e, rest)
  | .power u, ts, e, rest => Expr.power src (readers src d) u ts = .ok (e, rest)
  | .factorials u, ts, e, rest => ∃ e₀ mid, elementary src (readers src d) u ts = .ok (e₀, mid) ∧
    Expr.factorials src (columnOf ts) e₀ mid = Expr.factorials src (columnOf ts) e rest
  | .operand u, ts, e, rest => elementary src (readers src d) u ts = .ok (e, rest)
  | .number, ts, e, rest => ∃ t, ts = t :: rest ∧ t.kind = .scalar ∧ e = .scalar t.content
  | .openCall, ts, e, rest => ∃ t p ts' es, ts = t :: p :: ts' ∧ t.kind = .word ∧
    p.kind = .leftParen ∧ kindOf ts' ≠ .rightParen ∧ e = .call t.content es "" ∧
    ∀ es' rest',
      (∀ fuel, rest.length ≤ fuel →
        moreArguments (readers src d) fuel rest = .ok (es', rest')) →
      arguments (readers src d) (ts'.length + 1) ts' = .ok (es ++ es', rest')

theorem Row.step_of_stops {r : Row} (inner : Readers) (h : r.Stops src ts) :
    r.step src inner ts = .ok none := by
  cases ts with
  | nil => cases r <;> rfl
  | cons t ts =>
    have h := stops_cons.1 h
    cases r with
    | level l tighter =>
      have : l.operator? t = none := by simpa [goesOn] using h
      simp [step, nextOperand, this]
    | product =>
      simp only [goesOn, Bool.or_eq_false_iff, Option.isSome_eq_false_iff] at h
      obtain ⟨⟨h₁, h₂⟩, h₃⟩ := h
      simp_all [step, nextFactor]
    | quotient =>
      have : t.kind ≠ .intDivide := by simpa [goesOn] using h
      simp [step, nextOperand, quotientOperator?, this]
    | units =>
      simp only [goesOn, Bool.and_eq_false_iff] at h
      rcases h with h | h <;> simp_all [step, Expr.nextUnit]

theorem groupLeft_of_stops {r : Row} {start fuel : Nat} (h : r.Stops src ts) :
    groupLeft src (r.step src (readers src d)) start fuel e ts = .ok (e, ts) := by
  cases fuel with
  | zero => rfl
  | succ fuel =>
    rw [groupLeft, Row.step_of_stops _ h]
    rfl

/-- One turn of the loop over a row. -/
theorem groupLeft_of_step {r : Row} {start fuel : Nat} {left right : Expr} {op : BinaryOp}
    (h : r.step src (readers src d) ts = .ok (some (op, right, rest))) :
    groupLeft src (r.step src (readers src d)) start (fuel + 1) left ts =
      groupLeft src (r.step src (readers src d)) start fuel
        (.binary op left right (src.upTo start rest)) rest := by
  rw [groupLeft, h]
  rfl

/-- The first operand of a row, and what the loop makes of the rest. -/
theorem Row.reader_of_operand {r : Row} {result : Expr × List Token}
    (h : Evaluates src d r.operand ts e rest)
    (hl : groupLeft src (r.step src (readers src d)) (columnOf ts) rest.length e rest =
      .ok result) :
    r.reader src (readers src d) ts = .ok result := by
  cases r with
  | level l tighter =>
    have h : levelsReader src (readers src d) tighter ts = .ok (e, rest) := by
      cases tighter with
      | nil => exact h
      | cons l' tighter => exact h
    show chain src l.operator? (levelsReader src (readers src d) tighter) ts = _
    rw [chain, h]
    exact hl
  | product =>
    have h : Expr.quotient src (readers src d) ts = .ok (e, rest) := h
    rw [reader, Expr.product, h]
    exact hl
  | quotient =>
    have h : Expr.signed src (readers src d) ts = .ok (e, rest) := h
    rw [reader, Expr.quotient, chain, h]
    exact hl
  | units =>
    obtain ⟨t, rfl, ht, rfl⟩ := h
    simp only [reader, elementary, ht, if_true]
    exact hl

theorem factorials_of_kind {start : Nat} (h : kindOf ts ≠ .factorial) :
    factorials src start e ts = (e, ts) := by
  cases ts with
  | nil => rfl
  | cons t ts =>
    rw [kindOf_cons] at h
    rw [factorials, if_neg h]

theorem closing_of_kind {t : Token} (h : t.kind = .rightParen) : closing (t :: ts) = .ok ts := by
  simp [closing, h]

theorem parenthesised_of_closing {inner : Readers} {p : Token}
    (h : inner.assignment ts = .ok (e, p :: rest)) (hp : p.kind = .rightParen) :
    parenthesised inner ts = .ok (e, rest) := by
  simp [parenthesised, h, closing_of_kind hp]

/-- **What the relation has, the readers return.** -/
theorem Reads.evaluates (h : Reads src d g ts e rest) : Evaluates src d g ts e rest := by
  induction h with
  | plainCondition _ hk ih => simp_all [Evaluates, Expr.assignment]
  | @assign d ts target t mid value rest _ ht _ ih₁ ih₂ =>
    have ih₂ : (readers src (d + 1)).assignment mid = .ok (value, rest) := ih₂
    simp only [Evaluates] at ih₁
    simp [Evaluates, Expr.assignment, ih₁, ht, ih₂]
  | plainOperation _ hk ih =>
    have ih : Expr.operation src (readers src _) _ = _ := ih
    simp [Evaluates, Expr.condition, ih, hk]
  | @conditional d ts c t₁ mid₁ yes t₂ mid₂ no rest _ h₁ _ h₂ _ ih₁ ih₂ ih₃ =>
    have ih₁ : Expr.operation src (readers src (d + 1)) ts = .ok (c, t₁ :: mid₁) := ih₁
    have ih₂ : (readers src (d + 1)).condition mid₁ = .ok (yes, t₂ :: mid₂) := ih₂
    have ih₃ : (readers src (d + 1)).condition mid₂ = .ok (no, rest) := ih₃
    simp [Evaluates, Expr.condition, ih₁, h₁, ih₂, h₂, ih₃]
  | whole _ hs ih => exact ih _ fun fuel _ => groupLeft_of_stops hs
  | first _ ih => exact fun result h => Row.reader_of_operand ih (h _ (Nat.le_refl _))
  | more _ h₂ ih₁ ih₂ =>
    intro result h
    refine ih₁ result fun fuel hfuel => ?_
    have hlt := h₂.consumed.length_lt
    obtain ⟨k, rfl⟩ : ∃ k, fuel = k + 1 := ⟨fuel - 1, by omega⟩
    rw [groupLeft_of_step ih₂]
    exact h k (by omega)
  | @nextLevel d l tighter t op ts e rest ht _ ih =>
    have ih : levelsReader src (readers src d) tighter ts = .ok (e, rest) := by
      cases tighter with
      | nil => exact ih
      | cons l' tighter => exact ih
    simp [Evaluates, Row.step, nextOperand, ht, ih]
  | nextQuotient ht _ ih =>
    simp only [Evaluates] at ih ⊢
    simp [Row.step, nextOperand, quotientOperator?, ht, ih]
  | nextFactor ht _ ih =>
    simp only [Evaluates, Row.reader] at ih ⊢
    simp [Row.step, Expr.nextFactor, ht, ih]
  | factorUnit ht hr hu _ ih =>
    simp only [Evaluates] at ih ⊢
    simp [Row.step, Expr.nextFactor, factorOperator?, ht, hr, hu, ih]
  | factorName ht hr hu =>
    simp [Evaluates, Row.step, Expr.nextFactor, factorOperator?, ht, hr, hu]
  | @factorParen d t ts e p rest ht _ hp ih =>
    have ih : (readers src (d + 1)).assignment ts = .ok (e, p :: rest) := ih
    have := parenthesised_of_closing ih hp
    simp [Evaluates, Row.step, Expr.nextFactor, factorOperator?, ht, this]
  | @nextUnit d t ts e rest ht hu _ ih =>
    have ih : (readers src (d + 1)).power (t :: ts) = .ok (e, rest) := ih
    simp [Evaluates, Row.step, Expr.nextUnit, ht, hu, ih]
  | @unsigned _ u _ _ _ hk _ ih =>
    simp only [Evaluates] at ih
    cases u <;> simp [Evaluates, Expr.signed, Expr.exponent, leading, hk, ih]
  | @sign d u _ _ ts e rest ht _ ih =>
    cases u
    · have ih : (readers src (d + 1)).exponent ts = .ok (e, rest) := ih
      simp [Evaluates, Expr.exponent, leading, ht, ih]
    · have ih : (readers src (d + 1)).signed ts = .ok (e, rest) := ih
      simp [Evaluates, Expr.signed, leading, ht, ih]
  | noExponent _ hf hp ih =>
    obtain ⟨e₀, mid, h, heq⟩ := ih
    simp [Evaluates, Expr.power, h, heq, factorials_of_kind hf, hp]
  | @exponent d u ts base t mid e rest _ ht _ ih₁ ih₂ =>
    obtain ⟨e₀, mid₀, h, heq⟩ := ih₁
    have hf : kindOf (t :: mid) ≠ .factorial := by simp [ht]
    rw [factorials_of_kind hf] at heq
    have ih₂ : (readers src (d + 1)).exponent mid = .ok (e, rest) := ih₂
    simp [Evaluates, Expr.power, h, heq, ht, ih₂]
  | noFactorial _ ih => exact ⟨_, _, ih, rfl⟩
  | factorial _ ht ih =>
    obtain ⟨e₀, mid, h, heq⟩ := ih
    exact ⟨e₀, mid, h, by rw [heq, Expr.factorials, if_pos ht]⟩
  | @paren d u t ts e p rest ht _ hp ih =>
    have ih : (readers src (d + 1)).assignment ts = .ok (e, p :: rest) := ih
    have := parenthesised_of_closing ih hp
    simp [Evaluates, elementary, ht, this]
  | scalar ht => exact ⟨_, rfl, ht, rfl⟩
  | bareNumber _ ih =>
    obtain ⟨t, rfl, ht, rfl⟩ := ih
    simp [Evaluates, elementary, ht]
  | numberWithUnits _ ih => exact ih
  | unit ht hk hu => simp [Evaluates, elementary, ht, hk, hu]
  | name ht hk hu => simp [Evaluates, elementary, ht, hk, hu]
  | emptyCall ht hp hq => simp [Evaluates, elementary, ht, hp, callOf, hq]
  | @firstArgument d t p ts e rest ht hp h ih =>
    refine ⟨t, p, ts, [e], rfl, ht, hp, h.kindOf_ne_rightParen, rfl, fun es' rest' hmore => ?_⟩
    have ih : (readers src (d + 1)).assignment ts = .ok (e, rest) := ih
    have := hmore ts.length (Nat.le_of_lt h.consumed.length_lt)
    simp only [moreArguments] at this
    simp only [arguments, ih, Except.ok_bind]
    split at this <;> simp_all
  | @nextArgument d ts f es t mid e rest _ ht h ih₁ ih₂ =>
    obtain ⟨t', p, ts', es', rfl, ht', hp, hk, he, hargs⟩ := ih₁
    obtain ⟨rfl, rfl, -⟩ := Expr.call.inj he
    refine ⟨t', p, ts', es ++ [e], rfl, ht', hp, hk, rfl, fun es' rest' hmore => ?_⟩
    rw [List.append_assoc]
    refine hargs _ _ fun fuel hfuel => ?_
    obtain ⟨k, rfl⟩ : ∃ k, fuel = k + 1 := ⟨fuel - 1, by simp at hfuel; omega⟩
    have ih₂ : (readers src (d + 1)).assignment mid = .ok (e, rest) := ih₂
    have := hmore k (by have := h.consumed.length_lt; simp at hfuel; omega)
    simp only [moreArguments] at this
    simp only [moreArguments, kindOf_cons, ht, if_true, List.tail_cons, arguments, ih₂,
      Except.ok_bind]
    split at this <;> simp_all
  | @call d u ts f es q rest _ hq ih =>
    obtain ⟨t, p, ts', es, rfl, ht, hp, hk, he, hargs⟩ := ih
    obtain ⟨rfl, rfl, -⟩ := Expr.call.inj he
    have := hargs [] (q :: rest) fun fuel _ => by simp [moreArguments, hq]
    rw [List.append_nil] at this
    simp [Evaluates, elementary, ht, hp, callOf, hk, this, closing_of_kind hq]

/-! ### What the readers return, the relation has -/

theorem exists_cons_of_kindOf {k : TokenKind} (h : kindOf ts = k) (hk : k ≠ .endOfLine) :
    ∃ t tail, ts = t :: tail ∧ t.kind = k := by
  cases ts with
  | nil => exact absurd h.symm hk
  | cons t tail => exact ⟨t, tail, rfl, h⟩

theorem closing_eq_ok (h : closing ts = .ok rest) : ∃ p, ts = p :: rest ∧ p.kind = .rightParen := by
  unfold closing at h
  split at h
  · rename_i hk
    obtain ⟨p, tail, rfl, hp⟩ := exists_cons_of_kindOf hk (by decide)
    cases h
    exact ⟨p, rfl, hp⟩
  · cases h

theorem Row.stops_of_step {r : Row} {inner : Readers} (h : r.step src inner ts = .ok none) :
    r.Stops src ts := by
  cases ts with
  | nil => exact r.stops_nil
  | cons t tail =>
    refine Row.stops_cons.2 ?_
    cases r with
    | level l tighter =>
      simp only [step, nextOperand] at h
      split at h
      · rename_i hl
        simp [goesOn, hl]
      · simp [Except.bind_eq_ok_iff] at h
    | quotient =>
      simp only [step, nextOperand] at h
      split at h
      · rename_i hq
        simpa [goesOn, quotientOperator?] using hq
      · simp [Except.bind_eq_ok_iff] at h
    | product =>
      simp only [step, Expr.nextFactor] at h
      split at h
      · simp [Except.bind_eq_ok_iff] at h
      · rename_i hf
        split at h
        · split at h <;> simp [Except.bind_eq_ok_iff] at h
        · split at h
          · simp [Except.bind_eq_ok_iff] at h
          · simp_all [goesOn]
    | units =>
      simp only [step, Expr.nextUnit] at h
      split at h
      · simp [Except.bind_eq_ok_iff] at h
      · simp_all [goesOn]

/-- What the readers of a depth return, the relation has one level below. -/
structure Sound (src : Source) (d : Nat) : Prop where
  assignment : ∀ {ts e rest}, (readers src d).assignment ts = .ok (e, rest) →
    ∃ k, d = k + 1 ∧ Reads src k .assignment ts e rest
  condition : ∀ {ts e rest}, (readers src d).condition ts = .ok (e, rest) →
    ∃ k, d = k + 1 ∧ Reads src k .condition ts e rest
  signed : ∀ {ts e rest}, (readers src d).signed ts = .ok (e, rest) →
    ∃ k, d = k + 1 ∧ Reads src k (.signed true) ts e rest
  exponent : ∀ {ts e rest}, (readers src d).exponent ts = .ok (e, rest) →
    ∃ k, d = k + 1 ∧ Reads src k (.signed false) ts e rest
  power : ∀ {ts e rest}, (readers src d).power ts = .ok (e, rest) →
    ∃ k, d = k + 1 ∧ Reads src k (.power true) ts e rest

/-- The loop over a row reads the row, if every turn of it reads an operand. -/
theorem reads_of_groupLeft {r : Row}
    (hstep : ∀ {ts op right rest}, r.step src (readers src d) ts = .ok (some (op, right, rest)) →
      Reads src d (.next r op) ts right rest)
    (fuel : Nat) {left : Expr} (hf : mid.length ≤ fuel) (hp : Reads src d (.rowPart r) ts left mid)
    (h : groupLeft src (r.step src (readers src d)) (columnOf ts) fuel left mid = .ok (e, rest)) :
    Reads src d (.row r) ts e rest := by
  induction fuel generalizing left mid with
  | zero =>
    obtain rfl : mid = [] := List.length_eq_zero_iff.1 (Nat.le_zero.1 hf)
    cases h
    exact .whole hp fun t ht => by cases ht
  | succ fuel ih =>
    rw [groupLeft, Except.bind_eq_ok_iff] at h
    obtain ⟨next, hn, h⟩ := h
    cases next with
    | none =>
      cases h
      exact .whole hp (Row.stops_of_step hn)
    | some n =>
      obtain ⟨op, right, after⟩ := n
      have hr := hstep hn
      have hlt := hr.consumed.length_lt
      exact ih (by omega) (.more hp hr) h

theorem Sound.parenthesised (hs : Sound src d)
    (h : parenthesised (readers src d) ts = .ok (e, rest)) :
    ∃ k p, d = k + 1 ∧ Reads src k .assignment ts e (p :: rest) ∧ p.kind = .rightParen := by
  rw [Expr.parenthesised, Except.bind_eq_ok_iff] at h
  obtain ⟨⟨x, mid⟩, ha, h⟩ := h
  obtain ⟨after, hc, hr⟩ := Except.bind_eq_ok_iff.1 h
  cases hr
  obtain ⟨p, rfl, hp⟩ := closing_eq_ok hc
  obtain ⟨k, hk, hr⟩ := hs.assignment ha
  exact ⟨k, p, hk, hr, hp⟩

/-- Arguments are read one after the other: if the first of them goes on with a call, all of them
do. -/
theorem Sound.arguments (hs : Sound src d) (fuel : Nat) {all : List Token} {f : String}
    (read : List Expr) {es : List Expr}
    (hcall : ∀ {k e mid}, d = k + 1 → Reads src k .assignment ts e mid →
      Reads src d .openCall all (.call f (read ++ [e]) "") mid)
    (h : arguments (readers src d) fuel ts = .ok (es, rest)) :
    Reads src d .openCall all (.call f (read ++ es) "") rest := by
  induction fuel generalizing ts read es with
  | zero => cases h
  | succ fuel ih =>
    rw [Expr.arguments, Except.bind_eq_ok_iff] at h
    obtain ⟨⟨e, mid⟩, ha, h⟩ := h
    obtain ⟨k, hk, hr⟩ := hs.assignment ha
    have hcall := hcall hk hr
    dsimp only at h
    split at h
    · rename_i hsep
      obtain ⟨⟨es', after⟩, hm, h⟩ := Except.bind_eq_ok_iff.1 h
      cases h
      obtain ⟨s, tail, rfl, hkind⟩ := exists_cons_of_kindOf hsep (by decide)
      rw [show read ++ e :: es' = (read ++ [e]) ++ es' by simp]
      refine ih _ (fun hk' ha' => ?_) hm
      subst hk'
      exact .nextArgument hcall hkind ha'
    · cases h
      exact hcall

theorem Sound.callOf (hs : Sound src d) {t : Token} {u : Bool} (ht : t.kind = .word)
    (hp : kindOf ts = .leftParen)
    (h : callOf src (readers src d) t.column t.content ts = .ok (e, rest)) :
    Reads src d (.operand u) (t :: ts) e rest := by
  obtain ⟨p, tail, rfl, hp⟩ := exists_cons_of_kindOf hp (by decide)
  unfold Expr.callOf at h
  split at h
  · rename_i hk
    cases h
    obtain ⟨q, tail', hq, hkind⟩ := exists_cons_of_kindOf hk (by decide)
    obtain rfl : tail = q :: tail' := hq
    exact .emptyCall ht hp hkind
  · obtain ⟨⟨es, mid⟩, ha, h⟩ := Except.bind_eq_ok_iff.1 h
    obtain ⟨after, hc, hr⟩ := Except.bind_eq_ok_iff.1 h
    cases hr
    obtain ⟨q, rfl, hq⟩ := closing_eq_ok hc
    have hcall : Reads src d .openCall (t :: p :: tail) (.call t.content ([] ++ es) "")
        (q :: rest) :=
      hs.arguments _ [] (fun hk' hr => by subst hk'; exact .firstArgument ht hp hr) ha
    exact .call hcall hq

theorem Sound.units (hs : Sound src d) {op : BinaryOp} {right : Expr}
    (h : Row.step src (readers src d) .units ts = .ok (some (op, right, rest))) :
    Reads src d (.next .units op) ts right rest := by
  cases ts with
  | nil => cases h
  | cons t tail =>
    simp only [Row.step, Expr.nextUnit] at h
    split at h
    · rename_i ht
      obtain ⟨⟨e, mid⟩, hp, h⟩ := Except.bind_eq_ok_iff.1 h
      cases h
      obtain ⟨k, rfl, hr⟩ := hs.power hp
      exact .nextUnit ht.1 ht.2 hr
    · cases h

theorem Sound.elementary (hs : Sound src d) {u : Bool}
    (h : elementary src (readers src d) u ts = .ok (e, rest)) :
    Reads src d (.operand u) ts e rest := by
  cases ts with
  | nil => cases h
  | cons t tail =>
    simp only [Expr.elementary] at h
    split at h
    · rename_i ht
      obtain ⟨k, p, rfl, ha, hp⟩ := hs.parenthesised h
      exact .paren ht ha hp
    · rename_i ht
      split at h
      · rename_i hu
        subst hu
        exact .numberWithUnits (reads_of_groupLeft hs.units _ (Nat.le_refl _)
          (.first (.scalar ht)) h)
      · rename_i hu
        cases u with
        | true => exact absurd rfl hu
        | false =>
          cases h
          exact .bareNumber (.scalar ht)
    · rename_i ht
      split at h
      · rename_i hp
        exact hs.callOf ht hp h
      · rename_i hp
        split at h
        · rename_i hu
          cases h
          exact .unit ht hp hu
        · rename_i hu
          cases h
          exact .name ht hp (by simpa using hu)
    · cases h

theorem reads_of_factorials {u : Bool} {start : Nat} (hc : start = columnOf ts) {e₀ : Expr}
    (hp : Reads src d (.factorials u) ts e₀ mid) (h : factorials src start e₀ mid = (e, rest)) :
    Reads src d (.factorials u) ts e rest ∧ kindOf rest ≠ .factorial := by
  induction mid generalizing e₀ with
  | nil =>
    cases h
    exact ⟨hp, by simp⟩
  | cons t mid ih =>
    rw [Expr.factorials] at h
    split at h
    · rename_i ht
      exact ih (hc ▸ .factorial hp ht) h
    · rename_i ht
      cases h
      exact ⟨hp, ht⟩

theorem Sound.readsPower (hs : Sound src d) {u : Bool}
    (h : Expr.power src (readers src d) u ts = .ok (e, rest)) :
    Reads src d (.power u) ts e rest := by
  simp only [Expr.power, Except.bind_eq_ok_iff] at h
  obtain ⟨⟨e₀, mid⟩, he, h⟩ := h
  have he := Reads.noFactorial (hs.elementary he)
  obtain ⟨hf, hk⟩ := reads_of_factorials rfl he rfl
  split at h
  · rename_i hp
    obtain ⟨t, tail, hcons, ht⟩ := exists_cons_of_kindOf hp (by decide)
    rw [hcons] at hf h
    obtain ⟨⟨x, after⟩, hx, h⟩ := Except.bind_eq_ok_iff.1 h
    cases h
    obtain ⟨k, rfl, hr⟩ := hs.exponent hx
    exact .exponent hf ht hr
  · rename_i hp
    cases h
    exact .noExponent hf hk hp

theorem Sound.leading (hs : Sound src d) {u : Bool} {nested : Reader}
    (hn : ∀ {ts e rest}, nested ts = .ok (e, rest) →
      ∃ k, d = k + 1 ∧ Reads src k (.signed u) ts e rest)
    (h : leading src nested (Expr.power src (readers src d) u) ts = .ok (e, rest)) :
    Reads src d (.signed u) ts e rest := by
  simp only [Expr.leading] at h
  split at h
  · rename_i hl
    exact .unsigned hl (hs.readsPower h)
  · rename_i op hl
    obtain ⟨⟨x, after⟩, hx, h⟩ := Except.bind_eq_ok_iff.1 h
    cases h
    obtain ⟨t, tail, rfl⟩ : ∃ t tail, ts = t :: tail := by
      cases ts with
      | nil => cases hl
      | cons t tail => exact ⟨t, tail, rfl⟩
    obtain ⟨k, rfl, hr⟩ := hn hx
    exact .sign hl hr

theorem Sound.readsSigned (hs : Sound src d)
    (h : Expr.signed src (readers src d) ts = .ok (e, rest)) :
    Reads src d (.signed true) ts e rest :=
  hs.leading hs.signed h

theorem Sound.readsExponent (hs : Sound src d)
    (h : Expr.exponent src (readers src d) ts = .ok (e, rest)) :
    Reads src d (.signed false) ts e rest :=
  hs.leading hs.exponent h

theorem Sound.quotient (hs : Sound src d)
    (h : Expr.quotient src (readers src d) ts = .ok (e, rest)) :
    Reads src d (.row .quotient) ts e rest := by
  obtain ⟨⟨left, mid⟩, hl, h⟩ := Except.bind_eq_ok_iff.1 h
  refine reads_of_groupLeft (fun {ts op right rest} hn => ?_) _ (Nat.le_refl _)
    (.first (hs.readsSigned hl)) h
  cases ts with
  | nil => cases hn
  | cons t tail =>
    simp only [Row.step, nextOperand, quotientOperator?] at hn
    split at hn
    · cases hn
    · rename_i op' hq
      obtain ⟨⟨x, after⟩, hx, hn⟩ := Except.bind_eq_ok_iff.1 hn
      cases hn
      split at hq
      · rename_i ht
        cases hq
        exact .nextQuotient ht (hs.readsSigned hx)
      · cases hq

theorem Sound.nextFactor (hs : Sound src d) {op : BinaryOp} {right : Expr}
    (h : Row.step src (readers src d) .product ts = .ok (some (op, right, rest))) :
    Reads src d (.next .product op) ts right rest := by
  cases ts with
  | nil => cases h
  | cons t tail =>
    simp only [Row.step, Expr.nextFactor] at h
    split at h
    · rename_i hf
      obtain ⟨⟨x, after⟩, hx, h⟩ := Except.bind_eq_ok_iff.1 h
      cases h
      exact .nextFactor hf (hs.quotient hx)
    · split at h
      · rename_i hw
        split at h
        · rename_i hu
          obtain ⟨⟨x, after⟩, hx, h⟩ := Except.bind_eq_ok_iff.1 h
          cases h
          exact .factorUnit hw.1 hw.2 hu (hs.readsPower hx)
        · rename_i hu
          cases h
          exact .factorName hw.1 hw.2 (by simpa using hu)
      · split at h
        · rename_i hp
          obtain ⟨⟨x, after⟩, hx, h⟩ := Except.bind_eq_ok_iff.1 h
          cases h
          obtain ⟨k, p, rfl, ha, hr⟩ := hs.parenthesised hx
          exact .factorParen hp ha hr
        · cases h

theorem Sound.product (hs : Sound src d)
    (h : Expr.product src (readers src d) ts = .ok (e, rest)) :
    Reads src d (.row .product) ts e rest := by
  obtain ⟨⟨left, mid⟩, hl, h⟩ := Except.bind_eq_ok_iff.1 h
  exact reads_of_groupLeft hs.nextFactor _ (Nat.le_refl _) (.first (hs.quotient hl)) h

theorem Sound.levels (hs : Sound src d) (ls : List Level)
    (h : levelsReader src (readers src d) ls ts = .ok (e, rest)) :
    Reads src d (.levels ls) ts e rest := by
  induction ls generalizing ts e rest with
  | nil => exact hs.product h
  | cons l tighter ih =>
    obtain ⟨⟨left, mid⟩, hl, h⟩ := Except.bind_eq_ok_iff.1 h
    refine reads_of_groupLeft (r := .level l tighter) (fun {ts op right rest} hn => ?_) _
      (Nat.le_refl _) (.first (ih hl)) h
    cases ts with
    | nil => cases hn
    | cons t tail =>
      simp only [Row.step, nextOperand] at hn
      split at hn
      · cases hn
      · rename_i op' ht
        obtain ⟨⟨x, after⟩, hx, hn⟩ := Except.bind_eq_ok_iff.1 hn
        cases hn
        exact .nextLevel ht (ih hx)

theorem Sound.readsCondition (hs : Sound src d)
    (h : Expr.condition src (readers src d) ts = .ok (e, rest)) :
    Reads src d .condition ts e rest := by
  obtain ⟨⟨c, mid⟩, hc, h⟩ := Except.bind_eq_ok_iff.1 h
  have hc : Reads src d .operation ts c mid := hs.levels Level.all hc
  dsimp only at h
  split at h
  · rename_i hq
    obtain ⟨t₁, mid₁, rfl, h₁⟩ := exists_cons_of_kindOf hq (by decide)
    obtain ⟨⟨yes, mid'⟩, hy, h⟩ := Except.bind_eq_ok_iff.1 h
    dsimp only at h
    split at h
    · rename_i hcolon
      obtain ⟨t₂, mid₂, rfl, h₂⟩ := exists_cons_of_kindOf hcolon (by decide)
      obtain ⟨⟨no, after⟩, hn, h⟩ := Except.bind_eq_ok_iff.1 h
      cases h
      obtain ⟨k, rfl, hry⟩ := hs.condition hy
      obtain ⟨k', hk, hrn⟩ := hs.condition hn
      obtain rfl := Nat.succ.inj hk
      exact .conditional hc h₁ hry h₂ hrn
    · cases h
  · rename_i hq
    cases h
    exact .plainOperation hc hq

theorem Sound.readsAssignment (hs : Sound src d)
    (h : Expr.assignment src (readers src d) ts = .ok (e, rest)) :
    Reads src d .assignment ts e rest := by
  obtain ⟨⟨target, mid⟩, ht, h⟩ := Except.bind_eq_ok_iff.1 h
  have ht := hs.readsCondition ht
  dsimp only at h
  split at h
  · rename_i ha
    obtain ⟨t, tail, rfl, hk⟩ := exists_cons_of_kindOf ha (by decide)
    obtain ⟨⟨value, after⟩, hv, h⟩ := Except.bind_eq_ok_iff.1 h
    cases h
    obtain ⟨k, rfl, hr⟩ := hs.assignment hv
    exact .assign ht hk hr
  · rename_i ha
    cases h
    exact .plainCondition ht ha

/-- **What the readers return, the relation has.** -/
theorem sound (src : Source) (d : Nat) : Sound src d := by
  induction d with
  | zero => constructor <;> intro _ _ _ h <;> cases h
  | succ d ih =>
    exact
      { assignment := fun h => ⟨d, rfl, ih.readsAssignment h⟩
        condition := fun h => ⟨d, rfl, ih.readsCondition h⟩
        signed := fun h => ⟨d, rfl, ih.readsSigned h⟩
        exponent := fun h => ⟨d, rfl, ih.readsExponent h⟩
        power := fun h => ⟨d, rfl, ih.readsPower h⟩ }

/-- **The readers decide the relation:** an expression is read from the tokens exactly when the
relation has it with nothing left but the end. -/
theorem ofTokens_eq_ok_iff {depth : Nat} :
    ofTokens src depth ts = .ok e ↔
      ∃ k rest, depth = k + 1 ∧ Reads src k .assignment ts e rest ∧ kindOf rest = .endOfLine := by
  constructor
  · intro h
    unfold ofTokens at h
    split at h
    · cases h
    · obtain ⟨⟨x, rest⟩, hx, h⟩ := Except.bind_eq_ok_iff.1 h
      dsimp only at h
      split at h
      · rename_i hend
        cases h
        obtain ⟨k, hk, hr⟩ := (sound src depth).assignment hx
        exact ⟨k, rest, hk, hr, hend⟩
      · cases h
  · rintro ⟨k, rest, rfl, hr, hend⟩
    have hne : kindOf ts ≠ .endOfLine := by
      obtain ⟨seg, hseg, rfl, hp⟩ := hr.consumed
      cases seg with
      | nil => exact absurd rfl hseg
      | cons t seg => exact (hp t (by simp)).1
    have hx : (readers src (k + 1)).assignment ts = .ok (e, rest) := hr.evaluates
    simp [ofTokens, hne, hx, hend]

end Expr
end QuantityCalculus
