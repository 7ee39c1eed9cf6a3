/-
# Reading as a relation

`Reads src d g ts e rest` says that the phrase `g` is read from the front of the tokens `ts`:
the expression is `e`, the tokens `rest` are left, and no phrase is nested more than `d` deep
inside `g`. There is one rule for each way in which the reader goes on, with the token that it
looks at before it does.

A row of operators that are grouped to the left is read up to any of its operands
(`Phrase.rowPart`), and it is read as a whole (`Phrase.row`) when the token after it does not
go on with it. So the rules follow the left operands, as the trees do, and not the loop.

**Main statements.**

* `Reads.consumed`: what is read is a beginning of the tokens, not empty, without the end of
  the text and without unknown characters.
* `Reads.mono`: what is read at some depth is read at every greater one.
* `Reads.within`: what is read at any depth is read at the number of tokens.
-/

import QuantityCalculus.Expr.Reader

namespace QuantityCalculus
namespace Expr

/-- The rows of operands that are grouped to the left: the operators of a level over the
tighter levels, products, integer quotients, and a number with unit words. -/
inductive Row where
  | level (l : Level) (tighter : List Level)
  | product
  | quotient
  | units

/-- What is read as one piece. Exponents are the signed operands and powers whose numbers take
no unit words. -/
inductive Phrase where
  | assignment
  | condition
  | row (r : Row)
  /-- a row up to one of its operands -/
  | rowPart (r : Row)
  /-- an operator of a row, if it is written, and its right operand -/
  | next (r : Row) (op : BinaryOp)
  | signed (withUnits : Bool)
  | power (withUnits : Bool)
  /-- an operand up to one of its factorial signs -/
  | factorials (withUnits : Bool)
  | operand (withUnits : Bool)
  | number
  /-- a call without its closing parenthesis; its text is still empty -/
  | openCall

/-- The operations over some levels and products. -/
def Phrase.levels : List Level → Phrase
  | [] => .row .product
  | l :: tighter => .row (.level l tighter)

/-- The row of the loosest of some levels. -/
def Row.ofLevels : List Level → Row
  | [] => product
  | l :: tighter => level l tighter

/-- All operations. -/
def Phrase.operation : Phrase := .levels Level.all

/-- The first operand of a row. -/
def Row.operand : Row → Phrase
  | level _ tighter => .levels tighter
  | product => .row .quotient
  | quotient => .signed true
  | units => .number

/-- Whether a token goes on with a row. -/
def Row.goesOn (src : Source) : Row → Token → Bool
  | level l _, t => (l.operator? t).isSome
  | product, t =>
    (factorOperator? t).isSome || (t.kind == .word && t.content != Name.reserved) ||
      t.kind == .leftParen
  | quotient, t => t.kind == .intDivide
  | units, t => t.kind == .word && src.isUnit t.content

/-- The first of the tokens, if there is one, does not go on with a row. -/
def Row.Stops (src : Source) (r : Row) (ts : List Token) : Prop :=
  ∀ t ∈ ts.head?, r.goesOn src t = false

theorem Phrase.levels_eq (ls : List Level) : Phrase.levels ls = .row (Row.ofLevels ls) := by
  cases ls <;> rfl

/-- The phrase `g` at the front of the tokens, nested at most `d` deep. -/
inductive Reads (src : Source) : Nat → Phrase → List Token → Expr → List Token → Prop
  | plainCondition {d ts e rest} :
    Reads src d .condition ts e rest → kindOf rest ≠ .assign → Reads src d .assignment ts e rest
  | assign {d ts target t mid value rest} :
    Reads src (d + 1) .condition ts target (t :: mid) → t.kind = .assign →
    Reads src d .assignment mid value rest →
    Reads src (d + 1) .assignment ts
      (.binary .assign target value (src.upTo (columnOf ts) rest)) rest
  | plainOperation {d ts e rest} :
    Reads src d .operation ts e rest → kindOf rest ≠ .question → Reads src d .condition ts e rest
  | conditional {d ts c t₁ mid₁ yes t₂ mid₂ no rest} :
    Reads src (d + 1) .operation ts c (t₁ :: mid₁) → t₁.kind = .question →
    Reads src d .condition mid₁ yes (t₂ :: mid₂) → t₂.kind = .colon →
    Reads src d .condition mid₂ no rest →
    Reads src (d + 1) .condition ts (.conditional c yes no (src.upTo (columnOf ts) rest)) rest
  | whole {d r ts e rest} :
    Reads src d (.rowPart r) ts e rest → r.Stops src rest → Reads src d (.row r) ts e rest
  | first {d r ts e rest} : Reads src d r.operand ts e rest → Reads src d (.rowPart r) ts e rest
  | more {d r ts left mid op right rest} :
    Reads src d (.rowPart r) ts left mid → Reads src d (.next r op) mid right rest →
    Reads src d (.rowPart r) ts (.binary op left right (src.upTo (columnOf ts) rest)) rest
  | nextLevel {d l tighter t op ts e rest} :
    l.operator? t = some op → Reads src d (.levels tighter) ts e rest →
    Reads src d (.next (.level l tighter) op) (t :: ts) e rest
  | nextQuotient {d t ts e rest} :
    t.kind = .intDivide → Reads src d (.signed true) ts e rest →
    Reads src d (.next .quotient .intDivide) (t :: ts) e rest
  | nextFactor {d t op ts e rest} :
    factorOperator? t = some op → Reads src d (.row .quotient) ts e rest →
    Reads src d (.next .product op) (t :: ts) e rest
  | factorUnit {d t ts e rest} :
    t.kind = .word → t.content ≠ Name.reserved → src.isUnit t.content = true →
    Reads src d (.power true) (t :: ts) e rest →
    Reads src d (.next .product .multiply) (t :: ts) e rest
  | factorName {d t rest} :
    t.kind = .word → t.content ≠ Name.reserved → src.isUnit t.content = false →
    Reads src d (.next .product .multiply) (t :: rest) (.name t.content) rest
  | factorParen {d t ts e p rest} :
    t.kind = .leftParen → Reads src d .assignment ts e (p :: rest) → p.kind = .rightParen →
    Reads src (d + 1) (.next .product .multiply) (t :: ts) e rest
  | nextUnit {d t ts e rest} :
    t.kind = .word → src.isUnit t.content = true → Reads src d (.power true) (t :: ts) e rest →
    Reads src (d + 1) (.next .units .multiply) (t :: ts) e rest
  | unsigned {d u ts e rest} :
    leadingOperator? (kindOf ts) = none → Reads src d (.power u) ts e rest →
    Reads src d (.signed u) ts e rest
  | sign {d u t op ts e rest} :
    leadingOperator? t.kind = some op → Reads src d (.signed u) ts e rest →
    Reads src (d + 1) (.signed u) (t :: ts) (.unary op e (src.upTo t.column rest)) rest
  | noExponent {d u ts e rest} :
    Reads src d (.factorials u) ts e rest → kindOf rest ≠ .factorial → kindOf rest ≠ .power →
    Reads src d (.power u) ts e rest
  | exponent {d u ts base t mid e rest} :
    Reads src (d + 1) (.factorials u) ts base (t :: mid) → t.kind = .power →
    Reads src d (.signed false) mid e rest →
    Reads src (d + 1) (.power u) ts (.binary .power base e (src.upTo (columnOf ts) rest)) rest
  | noFactorial {d u ts e rest} :
    Reads src d (.operand u) ts e rest → Reads src d (.factorials u) ts e rest
  | factorial {d u ts e t rest} :
    Reads src d (.factorials u) ts e (t :: rest) → t.kind = .factorial →
    Reads src d (.factorials u) ts (.unary .factorial e (src.upTo (columnOf ts) rest)) rest
  | paren {d u t ts e p rest} :
    t.kind = .leftParen → Reads src d .assignment ts e (p :: rest) → p.kind = .rightParen →
    Reads src (d + 1) (.operand u) (t :: ts) e rest
  | scalar {d t rest} : t.kind = .scalar → Reads src d .number (t :: rest) (.scalar t.content) rest
  | bareNumber {d ts e rest} :
    Reads src d .number ts e rest → Reads src d (.operand false) ts e rest
  | numberWithUnits {d ts e rest} :
    Reads src d (.row .units) ts e rest → Reads src d (.operand true) ts e rest
  | unit {d u t rest} :
    t.kind = .word → kindOf rest ≠ .leftParen → src.isUnit t.content = true →
    Reads src d (.operand u) (t :: rest) (.unit t.content) rest
  | name {d u t rest} :
    t.kind = .word → kindOf rest ≠ .leftParen → src.isUnit t.content = false →
    Reads src d (.operand u) (t :: rest) (.name t.content) rest
  | emptyCall {d u t p q rest} :
    t.kind = .word → p.kind = .leftParen → q.kind = .rightParen →
    Reads src d (.operand u) (t :: p :: q :: rest)
      (.call t.content [] (src.upTo t.column rest)) rest
  | firstArgument {d t p ts e rest} :
    t.kind = .word → p.kind = .leftParen → Reads src d .assignment ts e rest →
    Reads src (d + 1) .openCall (t :: p :: ts) (.call t.content [e] "") rest
  | nextArgument {d ts f es t mid e rest} :
    Reads src (d + 1) .openCall ts (.call f es "") (t :: mid) → t.kind = .separator →
    Reads src d .assignment mid e rest →
    Reads src (d + 1) .openCall ts (.call f (es ++ [e]) "") rest
  | call {d u ts f es p rest} :
    Reads src d .openCall ts (.call f es "") (p :: rest) → p.kind = .rightParen →
    Reads src d (.operand u) ts (.call f es (src.upTo (columnOf ts) rest)) rest

variable {src : Source} {d : Nat} {g : Phrase} {ts mid rest : List Token} {e : Expr}

theorem Row.stops_nil (r : Row) : r.Stops src [] := fun _ h => by cases h

theorem Row.stops_cons {r : Row} {t : Token} : r.Stops src (t :: ts) ↔ r.goesOn src t = false := by
  simp [Stops]

/-- A token that may stand in an expression. -/
def Proper (t : Token) : Prop := t.kind ≠ .endOfLine ∧ t.kind ≠ .unknown

/-- `rest` is what is left of `ts` behind at least one token, none of them improper. -/
def Consumed (ts rest : List Token) : Prop :=
  ∃ seg, seg ≠ [] ∧ ts = seg ++ rest ∧ ∀ t ∈ seg, Proper t

theorem Consumed.single {t : Token} (h : Proper t) : Consumed (t :: rest) rest :=
  ⟨[t], by simp, rfl, by simpa using h⟩

theorem Consumed.trans (h₁ : Consumed ts mid) (h₂ : Consumed mid rest) : Consumed ts rest := by
  obtain ⟨seg₁, hne, rfl, hp₁⟩ := h₁
  obtain ⟨seg₂, -, rfl, hp₂⟩ := h₂
  refine ⟨seg₁ ++ seg₂, by simp [hne], by simp, fun t ht => ?_⟩
  rcases List.mem_append.1 ht with ht | ht
  · exact hp₁ t ht
  · exact hp₂ t ht

/-- One more token in front. -/
theorem Consumed.cons {t : Token} (ht : Proper t) (h : Consumed ts rest) :
    Consumed (t :: ts) rest :=
  (Consumed.single ht).trans h

/-- One more token behind. -/
theorem Consumed.behind {t : Token} (h : Consumed ts (t :: rest)) (ht : Proper t) :
    Consumed ts rest :=
  h.trans (Consumed.single ht)

theorem Consumed.length_lt (h : Consumed ts rest) : rest.length < ts.length := by
  obtain ⟨seg, hne, rfl, -⟩ := h
  have := List.length_pos_iff.2 hne
  simp only [List.length_append]
  omega

theorem Consumed.isSuffix (h : Consumed ts rest) : rest <:+ ts := by
  obtain ⟨seg, -, rfl, -⟩ := h
  exact List.suffix_append seg rest

theorem proper_of_kind {t : Token} {k : TokenKind} (h : t.kind = k) (h₁ : k ≠ .endOfLine)
    (h₂ : k ≠ .unknown) : Proper t :=
  ⟨h ▸ h₁, h ▸ h₂⟩

theorem Level.proper_of_operator? {l : Level} {t : Token} {op : BinaryOp}
    (h : l.operator? t = some op) : Proper t := by
  unfold Proper
  cases l <;> cases hk : t.kind <;> simp_all [Level.operator?]

theorem proper_of_factorOperator? {t : Token} {op : BinaryOp} (h : factorOperator? t = some op) :
    Proper t := by
  unfold Proper
  cases hk : t.kind <;> simp_all [factorOperator?]

theorem proper_of_leadingOperator? {t : Token} {op : UnaryOp}
    (h : leadingOperator? t.kind = some op) : Proper t := by
  unfold Proper
  cases hk : t.kind <;> simp_all [leadingOperator?]

/-- **What is read is a beginning of the tokens** that holds at least one token, each of them
proper. -/
theorem Reads.consumed (h : Reads src d g ts e rest) : Consumed ts rest := by
  induction h with
  | plainCondition _ _ ih | plainOperation _ _ ih | whole _ _ ih | first _ ih
  | unsigned _ _ ih | noExponent _ _ _ ih | noFactorial _ ih | bareNumber _ ih
  | numberWithUnits _ ih => exact ih
  | assign _ ht _ ih₁ ih₂ | nextArgument _ ht _ ih₁ ih₂ | exponent _ ht _ ih₁ ih₂ =>
    exact (ih₁.behind (proper_of_kind ht (by decide) (by decide))).trans ih₂
  | conditional _ h₁ _ h₂ _ ih₁ ih₂ ih₃ =>
    have hc := ih₁.behind (proper_of_kind h₁ (by decide) (by decide))
    have hy := ih₂.behind (proper_of_kind h₂ (by decide) (by decide))
    exact (hc.trans hy).trans ih₃
  | more _ _ ih₁ ih₂ => exact ih₁.trans ih₂
  | nextLevel ht _ ih => exact ih.cons (Level.proper_of_operator? ht)
  | nextFactor ht _ ih => exact ih.cons (proper_of_factorOperator? ht)
  | sign ht _ ih => exact ih.cons (proper_of_leadingOperator? ht)
  | nextQuotient ht _ ih => exact ih.cons (proper_of_kind ht (by decide) (by decide))
  | factorUnit _ _ _ _ ih | nextUnit _ _ _ ih => exact ih
  | factorName ht _ _ | scalar ht | unit ht _ _ | name ht _ _ =>
    exact .single (proper_of_kind ht (by decide) (by decide))
  | factorParen ht _ hp ih | paren ht _ hp ih =>
    have := ih.behind (proper_of_kind hp (by decide) (by decide))
    exact this.cons (proper_of_kind ht (by decide) (by decide))
  | factorial _ ht ih | call _ ht ih =>
    exact ih.behind (proper_of_kind ht (by decide) (by decide))
  | emptyCall ht hp hq =>
    refine .cons (proper_of_kind ht (by decide) (by decide)) ?_
    refine .cons (proper_of_kind hp (by decide) (by decide)) ?_
    exact .single (proper_of_kind hq (by decide) (by decide))
  | firstArgument ht hp _ ih =>
    exact (ih.cons (proper_of_kind hp (by decide) (by decide))).cons
      (proper_of_kind ht (by decide) (by decide))

/-- **What is read at some depth is read at every greater one.** -/
theorem Reads.mono {d' : Nat} (h : Reads src d g ts e rest) (hd : d ≤ d') :
    Reads src d' g ts e rest := by
  induction h generalizing d' with
  | plainCondition _ hk ih => exact .plainCondition (ih hd) hk
  | plainOperation _ hk ih => exact .plainOperation (ih hd) hk
  | whole _ hs ih => exact .whole (ih hd) hs
  | first _ ih => exact .first (ih hd)
  | more _ _ ih₁ ih₂ => exact .more (ih₁ hd) (ih₂ hd)
  | nextLevel ht _ ih => exact .nextLevel ht (ih hd)
  | nextQuotient ht _ ih => exact .nextQuotient ht (ih hd)
  | nextFactor ht _ ih => exact .nextFactor ht (ih hd)
  | factorUnit ht hr hu _ ih => exact .factorUnit ht hr hu (ih hd)
  | factorName ht hr hu => exact .factorName ht hr hu
  | unsigned hk _ ih => exact .unsigned hk (ih hd)
  | noExponent _ hf hp ih => exact .noExponent (ih hd) hf hp
  | noFactorial _ ih => exact .noFactorial (ih hd)
  | factorial _ ht ih => exact .factorial (ih hd) ht
  | scalar ht => exact .scalar ht
  | bareNumber _ ih => exact .bareNumber (ih hd)
  | numberWithUnits _ ih => exact .numberWithUnits (ih hd)
  | unit ht hk hu => exact .unit ht hk hu
  | name ht hk hu => exact .name ht hk hu
  | emptyCall ht hp hq => exact .emptyCall ht hp hq
  | call _ hp ih => exact .call (ih hd) hp
  -- what is nested has one level less
  | assign _ ht _ ih₁ ih₂ =>
    obtain ⟨k, rfl⟩ := Nat.exists_eq_add_of_lt hd
    exact .assign (ih₁ hd) ht (ih₂ (by omega))
  | conditional _ h₁ _ h₂ _ ih₁ ih₂ ih₃ =>
    obtain ⟨k, rfl⟩ := Nat.exists_eq_add_of_lt hd
    exact .conditional (ih₁ hd) h₁ (ih₂ (by omega)) h₂ (ih₃ (by omega))
  | factorParen ht _ hp ih =>
    obtain ⟨k, rfl⟩ := Nat.exists_eq_add_of_lt hd
    exact .factorParen ht (ih (by omega)) hp
  | nextUnit ht hu _ ih =>
    obtain ⟨k, rfl⟩ := Nat.exists_eq_add_of_lt hd
    exact .nextUnit ht hu (ih (by omega))
  | sign ht _ ih =>
    obtain ⟨k, rfl⟩ := Nat.exists_eq_add_of_lt hd
    exact .sign ht (ih (by omega))
  | exponent _ ht _ ih₁ ih₂ =>
    obtain ⟨k, rfl⟩ := Nat.exists_eq_add_of_lt hd
    exact .exponent (ih₁ hd) ht (ih₂ (by omega))
  | paren ht _ hp ih =>
    obtain ⟨k, rfl⟩ := Nat.exists_eq_add_of_lt hd
    exact .paren ht (ih (by omega)) hp
  | firstArgument ht hp _ ih =>
    obtain ⟨k, rfl⟩ := Nat.exists_eq_add_of_lt hd
    exact .firstArgument ht hp (ih (by omega))
  | nextArgument _ ht _ ih₁ ih₂ =>
    obtain ⟨k, rfl⟩ := Nat.exists_eq_add_of_lt hd
    exact .nextArgument (ih₁ hd) ht (ih₂ (by omega))

/-- Whether a phrase starts with an operand. -/
def Phrase.isPlain : Phrase → Bool
  | power _ | factorials _ | operand _ | number | openCall | row .units | rowPart .units => true
  | _ => false

/-- An operand starts with no sign. -/
theorem Reads.no_sign (h : Reads src d g ts e rest)
    (hg : g.isPlain = true) : leadingOperator? (kindOf ts) = none := by
  induction h with
  | noExponent _ _ _ ih | exponent _ _ _ ih _ | noFactorial _ ih | factorial _ _ ih
  | bareNumber _ ih | numberWithUnits _ ih | nextArgument _ _ _ ih _ | call _ _ ih => exact ih rfl
  | paren ht _ _ _ | scalar ht | unit ht _ _ | name ht _ _ | emptyCall ht _ _
  | firstArgument ht _ _ _ =>
    rw [kindOf_cons, ht]
    rfl
  | @whole _ r _ _ _ _ _ ih | @first _ r _ _ _ _ ih | @more _ r _ _ _ _ _ _ _ _ ih _ =>
    cases r with
    | units => exact ih rfl
    | level _ _ | product | quotient => cases hg
  | _ => cases hg

/-- How much deeper than its number of tokens a phrase may be nested: a unit word after a number
is nested without a token in front of it. -/
def Phrase.slack : Phrase → Nat
  | next .units _ => 1
  | _ => 0

theorem Phrase.slack_le_one (g : Phrase) : g.slack ≤ 1 := by
  unfold slack
  split <;> omega

@[simp] theorem Phrase.slack_levels (ls : List Level) : (Phrase.levels ls).slack = 0 := by
  cases ls <;> rfl

@[simp] theorem Row.slack_operand (r : Row) : r.operand.slack = 0 := by
  cases r with
  | level _ tighter => exact Phrase.slack_levels tighter
  | product | quotient | units => rfl

theorem Reads.within_slack (h : Reads src d g ts e rest) :
    Reads src (ts.length + g.slack) g ts e rest := by
  induction h with
  | plainCondition _ hk ih => exact .plainCondition ih hk
  | plainOperation _ hk ih => exact .plainOperation ih hk
  | whole _ hs ih => exact .whole ih hs
  | first _ ih =>
    rw [Row.slack_operand] at ih
    exact .first ih
  | @more _ r _ _ mid op _ _ h₁ _ ih₁ ih₂ =>
    have hlt := h₁.consumed.length_lt
    have hle := Phrase.slack_le_one (.next r op)
    exact .more ih₁ (ih₂.mono (by simp only [Phrase.slack] at hle ⊢; omega))
  | nextLevel ht _ ih =>
    rw [Phrase.slack_levels] at ih
    exact .nextLevel ht (ih.mono (Nat.le_succ _))
  | nextQuotient ht _ ih => exact .nextQuotient ht (ih.mono (Nat.le_succ _))
  | nextFactor ht _ ih => exact .nextFactor ht (ih.mono (Nat.le_succ _))
  | factorUnit ht hr hu _ ih => exact .factorUnit ht hr hu ih
  | factorName ht hr hu => exact .factorName ht hr hu
  | unsigned hk _ ih => exact .unsigned hk ih
  | noExponent _ hf hp ih => exact .noExponent ih hf hp
  | noFactorial _ ih => exact .noFactorial ih
  | factorial _ ht ih => exact .factorial ih ht
  | scalar ht => exact .scalar ht
  | bareNumber _ ih => exact .bareNumber ih
  | numberWithUnits _ ih => exact .numberWithUnits ih
  | unit ht hk hu => exact .unit ht hk hu
  | name ht hk hu => exact .name ht hk hu
  | emptyCall ht hp hq => exact .emptyCall ht hp hq
  | call _ hp ih => exact .call ih hp
  | factorParen ht _ hp ih => exact .factorParen ht ih hp
  | nextUnit ht hu _ ih => exact .nextUnit ht hu ih
  | sign ht _ ih => exact .sign ht ih
  | paren ht _ hp ih => exact .paren ht ih hp
  | firstArgument ht hp _ ih => exact .firstArgument ht hp (ih.mono (Nat.le_succ _))
  -- the tokens of the left part make room for what is nested behind it
  | assign h ht _ ih₁ ih₂ =>
    obtain ⟨k, hk⟩ := Nat.exists_eq_add_of_lt h.consumed.length_lt
    simp only [Phrase.slack, List.length_cons, Nat.add_zero] at hk ih₁ ih₂ ⊢
    rw [hk] at ih₁ ⊢
    exact .assign ih₁ ht (ih₂.mono (by omega))
  | exponent h ht _ ih₁ ih₂ =>
    obtain ⟨k, hk⟩ := Nat.exists_eq_add_of_lt h.consumed.length_lt
    simp only [Phrase.slack, List.length_cons, Nat.add_zero] at hk ih₁ ih₂ ⊢
    rw [hk] at ih₁ ⊢
    exact .exponent ih₁ ht (ih₂.mono (by omega))
  | nextArgument h ht _ ih₁ ih₂ =>
    obtain ⟨k, hk⟩ := Nat.exists_eq_add_of_lt h.consumed.length_lt
    simp only [Phrase.slack, List.length_cons, Nat.add_zero] at hk ih₁ ih₂ ⊢
    rw [hk] at ih₁ ⊢
    exact .nextArgument ih₁ ht (ih₂.mono (by omega))
  | conditional h ht h' h₂ _ ih₁ ih₂ ih₃ =>
    obtain ⟨k, hk⟩ := Nat.exists_eq_add_of_lt h.consumed.length_lt
    have hlt := h'.consumed.length_lt
    simp only [Phrase.slack, List.length_cons, Nat.add_zero] at hk hlt ih₁ ih₂ ih₃ ⊢
    rw [hk] at ih₁ ⊢
    exact .conditional ih₁ ht (ih₂.mono (by omega)) h₂ (ih₃.mono (by omega))

/-- **An expression that is read at any depth is read at the number of its tokens,** because
what is nested starts behind at least one token. -/
theorem Reads.within (h : Reads src d .assignment ts e rest) :
    Reads src ts.length .assignment ts e rest :=
  h.within_slack

end Expr
end QuantityCalculus
