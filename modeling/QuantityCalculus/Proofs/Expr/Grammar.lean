/-
# The grammar of expressions

The sentences that the readers are meant to accept, as rules over rows of tokens without any
order of choice:

    A = T ['=' A]
    T = O ['?' T ':' T]
    each level = tighter (operator tighter)*
    M = D (('*' | '/' | '%') D | U | v | '(' A ')')*
    D = S ('\' S)*
    S = sign* E,  E = F ['^' P],  F = L '!'*
    P = sign* G ['^' P],          G = K '!'*
    K = '(' A ')' | SCALAR | WORD | WORD '(' [A (SEPARATOR A)*] ')'
    L = K | SCALAR U+

`U` is an `E` whose first token is a unit word and `v` any other word but the reserved one. The
grammar is ambiguous: a parenthesis after a word may be a call or a factor, and a unit word may
belong to the number before it or to the product around it.

**Main statement.** `Reads.derives`: what is read is a sentence.
-/

import QuantityCalculus.Proofs.Expr.Reads

namespace QuantityCalculus
namespace Expr

/-- The symbols of the grammar. Those with a `Bool` come in two forms: within exponents (`false`)
numbers take no unit words. -/
inductive Symbol where
  /-- `A` -/
  | assignment
  /-- `T` -/
  | condition
  /-- the operations of some levels, loosest first; without any level `M` -/
  | operation (levels : List Level)
  /-- `D` -/
  | quotient
  /-- `S` and `P` -/
  | signed (withUnits : Bool)
  /-- `E`, and `P` without its signs -/
  | power (withUnits : Bool)
  /-- `F` and `G` -/
  | factorials (withUnits : Bool)
  /-- `L` and `K` -/
  | operand (withUnits : Bool)
  /-- `SCALAR U+` -/
  | measure
  /-- `A (SEPARATOR A)*` -/
  | arguments

/-- The sentences of a symbol, given the unit words. -/
inductive Derives (isUnit : String → Bool) : Symbol → List Token → Prop
  | condition {w} : Derives isUnit .condition w → Derives isUnit .assignment w
  | assign {w t v} : Derives isUnit .condition w → t.kind = .assign →
    Derives isUnit .assignment v → Derives isUnit .assignment (w ++ t :: v)
  | operation {w} : Derives isUnit (.operation Level.all) w → Derives isUnit .condition w
  | conditional {w t₁ v₁ t₂ v₂} : Derives isUnit (.operation Level.all) w → t₁.kind = .question →
    Derives isUnit .condition v₁ → t₂.kind = .colon → Derives isUnit .condition v₂ →
    Derives isUnit .condition (w ++ t₁ :: (v₁ ++ t₂ :: v₂))
  | tighter {l ls w} : Derives isUnit (.operation ls) w → Derives isUnit (.operation (l :: ls)) w
  | level {l ls w t op v} : Derives isUnit (.operation (l :: ls)) w → l.operator? t = some op →
    Derives isUnit (.operation ls) v → Derives isUnit (.operation (l :: ls)) (w ++ t :: v)
  | firstFactor {w} : Derives isUnit .quotient w → Derives isUnit (.operation []) w
  | factor {w t op v} : Derives isUnit (.operation []) w → factorOperator? t = some op →
    Derives isUnit .quotient v → Derives isUnit (.operation []) (w ++ t :: v)
  | factorUnit {w t v} : Derives isUnit (.operation []) w → t.kind = .word →
    isUnit t.content = true → Derives isUnit (.power true) (t :: v) →
    Derives isUnit (.operation []) (w ++ t :: v)
  | factorName {w t} : Derives isUnit (.operation []) w → t.kind = .word →
    t.content ≠ Name.reserved → isUnit t.content = false →
    Derives isUnit (.operation []) (w ++ [t])
  | factorParen {w t v p} : Derives isUnit (.operation []) w → t.kind = .leftParen →
    Derives isUnit .assignment v → p.kind = .rightParen →
    Derives isUnit (.operation []) (w ++ t :: (v ++ [p]))
  | firstSigned {w} : Derives isUnit (.signed true) w → Derives isUnit .quotient w
  | divide {w t v} : Derives isUnit .quotient w → t.kind = .intDivide →
    Derives isUnit (.signed true) v → Derives isUnit .quotient (w ++ t :: v)
  | unsigned {u w} : Derives isUnit (.power u) w → Derives isUnit (.signed u) w
  | sign {u t op w} : leadingOperator? t.kind = some op → Derives isUnit (.signed u) w →
    Derives isUnit (.signed u) (t :: w)
  | noExponent {u w} : Derives isUnit (.factorials u) w → Derives isUnit (.power u) w
  | exponent {u w t v} : Derives isUnit (.factorials u) w → t.kind = .power →
    Derives isUnit (.signed false) v → Derives isUnit (.power u) (w ++ t :: v)
  | noFactorial {u w} : Derives isUnit (.operand u) w → Derives isUnit (.factorials u) w
  | factorial {u w t} : Derives isUnit (.factorials u) w → t.kind = .factorial →
    Derives isUnit (.factorials u) (w ++ [t])
  | paren {u t w p} : t.kind = .leftParen → Derives isUnit .assignment w →
    p.kind = .rightParen → Derives isUnit (.operand u) (t :: (w ++ [p]))
  | scalar {u t} : t.kind = .scalar → Derives isUnit (.operand u) [t]
  | word {u t} : t.kind = .word → Derives isUnit (.operand u) [t]
  | emptyCall {u t p q} : t.kind = .word → p.kind = .leftParen → q.kind = .rightParen →
    Derives isUnit (.operand u) [t, p, q]
  | call {u t p w q} : t.kind = .word → p.kind = .leftParen → Derives isUnit .arguments w →
    q.kind = .rightParen → Derives isUnit (.operand u) (t :: p :: (w ++ [q]))
  | measure {w} : Derives isUnit .measure w → Derives isUnit (.operand true) w
  | firstUnit {s t v} : s.kind = .scalar → t.kind = .word → isUnit t.content = true →
    Derives isUnit (.power true) (t :: v) → Derives isUnit .measure (s :: t :: v)
  | moreUnits {w t v} : Derives isUnit .measure w → t.kind = .word → isUnit t.content = true →
    Derives isUnit (.power true) (t :: v) → Derives isUnit .measure (w ++ t :: v)
  | firstArgument {w} : Derives isUnit .assignment w → Derives isUnit .arguments w
  | nextArgument {w t v} : Derives isUnit .arguments w → t.kind = .separator →
    Derives isUnit .assignment v → Derives isUnit .arguments (w ++ t :: v)

variable {isUnit : String → Bool} {src : Source} {d : Nat} {g : Phrase} {w ts rest : List Token}
  {e : Expr}

/-- The tokens of a number with the unit words behind it. -/
def IsMeasure (isUnit : String → Bool) (w : List Token) : Prop :=
  (∃ t, w = [t] ∧ t.kind = .scalar) ∨ Derives isUnit .measure w

/-- The tokens of a row, whole or up to one of its operands. -/
def Row.Sentence (isUnit : String → Bool) : Row → List Token → Prop
  | level l ls, w => Derives isUnit (.operation (l :: ls)) w
  | product, w => Derives isUnit (.operation []) w
  | quotient, w => Derives isUnit .quotient w
  | units, w => IsMeasure isUnit w

/-- The tokens that a phrase is made of. An operator with its right operand goes on with a row. -/
def Phrase.Sentence (isUnit : String → Bool) : Phrase → List Token → Prop
  | assignment, w => Derives isUnit .assignment w
  | condition, w => Derives isUnit .condition w
  | row r, w | rowPart r, w => r.Sentence isUnit w
  | next r _, w => ∀ v, r.Sentence isUnit v → r.Sentence isUnit (v ++ w)
  | signed u, w => Derives isUnit (.signed u) w
  | power u, w => Derives isUnit (.power u) w
  | factorials u, w => Derives isUnit (.factorials u) w
  | operand u, w => Derives isUnit (.operand u) w
  | number, w => ∃ t, w = [t] ∧ t.kind = .scalar
  | openCall, w => ∃ t p v, w = t :: p :: v ∧ t.kind = .word ∧ p.kind = .leftParen ∧
    Derives isUnit .arguments v

theorem Phrase.sentence_levels {ls : List Level} :
    (Phrase.levels ls).Sentence isUnit w ↔ Derives isUnit (.operation ls) w := by
  cases ls <;> rfl

theorem Row.sentence_of_operand {r : Row} (h : r.operand.Sentence isUnit w) :
    r.Sentence isUnit w := by
  cases r with
  | level l ls => exact .tighter (Phrase.sentence_levels.1 h)
  | product => exact .firstFactor h
  | quotient => exact .firstSigned h
  | units => exact .inl h

/-- A unit word with what belongs to it goes on with a number. -/
theorem IsMeasure.append {t : Token} {v : List Token} (hw : IsMeasure isUnit w)
    (ht : t.kind = .word) (hu : isUnit t.content = true)
    (hp : Derives isUnit (.power true) (t :: v)) : IsMeasure isUnit (w ++ t :: v) := by
  rcases hw with ⟨s, rfl, hs⟩ | hw
  · exact .inr (.firstUnit hs ht hu hp)
  · exact .inr (.moreUnits hw ht hu hp)

/-- What is consumed starts with the first token. -/
theorem Consumed.exists_cons {t : Token} (h : Consumed (t :: ts) rest) (hw : t :: ts = w ++ rest) :
    ∃ v, w = t :: v := by
  cases w with
  | nil =>
    have hlt := h.length_lt
    rw [hw] at hlt
    exact absurd hlt (by simp)
  | cons t' v => exact ⟨v, by rw [(List.cons.inj hw).1]⟩

/-- **What is read is a sentence** of the grammar. -/
theorem Reads.derives (h : Reads src d g ts e rest) :
    ∃ w, ts = w ++ rest ∧ g.Sentence src.isUnit w := by
  induction h with
  | plainCondition _ _ ih =>
    obtain ⟨w, rfl, hw⟩ := ih
    exact ⟨w, rfl, .condition hw⟩
  | assign _ ht _ ih₁ ih₂ =>
    obtain ⟨w, rfl, hw⟩ := ih₁
    obtain ⟨v, rfl, hv⟩ := ih₂
    exact ⟨_, by simp, .assign hw ht hv⟩
  | plainOperation _ _ ih =>
    obtain ⟨w, rfl, hw⟩ := ih
    exact ⟨w, rfl, .operation (Phrase.sentence_levels.1 hw)⟩
  | conditional _ h₁ _ h₂ _ ih₁ ih₂ ih₃ =>
    obtain ⟨w, rfl, hw⟩ := ih₁
    obtain ⟨v₁, rfl, hv₁⟩ := ih₂
    obtain ⟨v₂, rfl, hv₂⟩ := ih₃
    exact ⟨_, by simp, .conditional (Phrase.sentence_levels.1 hw) h₁ hv₁ h₂ hv₂⟩
  | whole _ _ ih => exact ih
  | first _ ih =>
    obtain ⟨w, rfl, hw⟩ := ih
    exact ⟨w, rfl, Row.sentence_of_operand hw⟩
  | more _ _ ih₁ ih₂ =>
    obtain ⟨w, rfl, hw⟩ := ih₁
    obtain ⟨v, rfl, hv⟩ := ih₂
    exact ⟨w ++ v, by simp, hv w hw⟩
  | @nextLevel _ _ _ t _ _ _ _ ht _ ih =>
    obtain ⟨w, rfl, hw⟩ := ih
    exact ⟨t :: w, rfl, fun v hv => .level hv ht (Phrase.sentence_levels.1 hw)⟩
  | @nextQuotient _ t _ _ _ ht _ ih =>
    obtain ⟨w, rfl, hw⟩ := ih
    exact ⟨t :: w, rfl, fun v hv => .divide hv ht hw⟩
  | @nextFactor _ t _ _ _ _ ht _ ih =>
    obtain ⟨w, rfl, hw⟩ := ih
    exact ⟨t :: w, rfl, fun v hv => .factor hv ht hw⟩
  | @factorUnit _ t ts _ _ ht _ hu h ih =>
    obtain ⟨w, hts, hw⟩ := ih
    obtain ⟨v, rfl⟩ := h.consumed.exists_cons hts
    exact ⟨t :: v, hts, fun v' hv' => .factorUnit hv' ht hu hw⟩
  | @factorName _ t _ ht hr hu =>
    exact ⟨[t], rfl, fun v hv => .factorName hv ht hr hu⟩
  | @factorParen _ t _ _ p _ ht _ hp ih =>
    obtain ⟨w, rfl, hw⟩ := ih
    exact ⟨t :: (w ++ [p]), by simp, fun v hv => .factorParen hv ht hw hp⟩
  | @nextUnit _ t ts _ _ ht hu h ih =>
    obtain ⟨w, hts, hw⟩ := ih
    obtain ⟨v, rfl⟩ := h.consumed.exists_cons hts
    exact ⟨t :: v, hts, fun v' hv' => hv'.append ht hu hw⟩
  | unsigned _ _ ih =>
    obtain ⟨w, rfl, hw⟩ := ih
    exact ⟨w, rfl, .unsigned hw⟩
  | @sign _ _ t _ _ _ _ ht _ ih =>
    obtain ⟨w, rfl, hw⟩ := ih
    exact ⟨t :: w, rfl, .sign ht hw⟩
  | noExponent _ _ _ ih =>
    obtain ⟨w, rfl, hw⟩ := ih
    exact ⟨w, rfl, .noExponent hw⟩
  | exponent _ ht _ ih₁ ih₂ =>
    obtain ⟨w, rfl, hw⟩ := ih₁
    obtain ⟨v, rfl, hv⟩ := ih₂
    exact ⟨_, by simp, .exponent hw ht hv⟩
  | noFactorial _ ih =>
    obtain ⟨w, rfl, hw⟩ := ih
    exact ⟨w, rfl, .noFactorial hw⟩
  | @factorial _ _ _ _ t _ _ ht ih =>
    obtain ⟨w, rfl, hw⟩ := ih
    exact ⟨w ++ [t], by simp, .factorial hw ht⟩
  | @paren _ _ t _ _ p _ ht _ hp ih =>
    obtain ⟨w, rfl, hw⟩ := ih
    exact ⟨t :: (w ++ [p]), by simp, .paren ht hw hp⟩
  | @scalar _ t _ ht => exact ⟨[t], rfl, t, rfl, ht⟩
  | bareNumber _ ih =>
    obtain ⟨w, rfl, t, rfl, ht⟩ := ih
    exact ⟨[t], rfl, .scalar ht⟩
  | numberWithUnits _ ih =>
    obtain ⟨w, rfl, ⟨t, rfl, ht⟩ | hw⟩ := ih
    · exact ⟨[t], rfl, .scalar ht⟩
    · exact ⟨w, rfl, .measure hw⟩
  | @unit _ _ t _ ht _ _ => exact ⟨[t], rfl, .word ht⟩
  | @name _ _ t _ ht _ _ => exact ⟨[t], rfl, .word ht⟩
  | @emptyCall _ _ t p q _ ht hp hq => exact ⟨[t, p, q], rfl, .emptyCall ht hp hq⟩
  | @firstArgument _ t p _ _ _ ht hp _ ih =>
    obtain ⟨w, rfl, hw⟩ := ih
    exact ⟨t :: p :: w, rfl, t, p, w, rfl, ht, hp, .firstArgument hw⟩
  | nextArgument _ ht _ ih₁ ih₂ =>
    obtain ⟨w, rfl, t', p, v, rfl, ht', hp, hv⟩ := ih₁
    obtain ⟨v', rfl, hv'⟩ := ih₂
    exact ⟨_, by simp, t', p, _, rfl, ht', hp, .nextArgument hv ht hv'⟩
  | @call _ _ _ _ _ q _ _ hq ih =>
    obtain ⟨w, rfl, t, p, v, rfl, ht, hp, hv⟩ := ih
    exact ⟨t :: p :: (v ++ [q]), by simp, .call ht hp hv hq⟩

end Expr
end QuantityCalculus
