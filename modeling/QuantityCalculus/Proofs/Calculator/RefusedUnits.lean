/-
# Definitions of units that are refused

A unit is defined by a text, whose expression is evaluated before anything is checked: the name of
an input unit, the dimension and the factor of an output unit. So when a definition is refused, no
table of units has changed, but the expression has been evaluated up to its end or its fault, and
evaluating writes. What stays are values of names that the expression assigns, and functions that
are defined in it or in the bodies that it may enter. A text that cannot be read leaves nothing, and
so does an expression that neither assigns nor defines.

**Main statements.** `atomic_registerInputUnit` and `atomic_registerOutputUnit`: a registration that
is refused changes nothing; `refused_defineInputUnit` and `refused_defineOutputUnit`: what a
definition that is refused has left.
-/

import QuantityCalculus.Proofs.Calculator.Operations
import QuantityCalculus.Proofs.Machine.Writes

namespace QuantityCalculus
namespace Calculator

variable {α : Type} [Scalar α]

/-- What the definition of a unit by a text has left when it is refused. -/
structure Refused (text : String) (c c' : Calculator α) : Prop where
  /-- nothing is changed but variables and functions -/
  tables : c' = { c with globals := c'.globals, functions := c'.functions }
  /-- nothing at all is changed if the text cannot be read -/
  unread : ∀ fault, c.read text = .error fault → c' = c
  /-- otherwise there is what evaluating the expression has left -/
  evaluated : ∀ e, c.read text = .ok e → c' = (outcome (valueOf e) c).2
  /-- which are assignments that the expression makes and functions that it may define -/
  logged : ∀ e, c.read text = .ok e →
    Logged e.Assigns (e.MayDefine c.functions) c.globals c'.globals c.functions c'.functions
  /-- so nothing is changed by an expression that neither assigns nor defines -/
  unchanged : ∀ e, c.read text = .ok e → (∀ n, ¬ e.Assigns n) →
    (∀ f, ¬ e.MayDefine c.functions f) → c' = c

variable {c : Calculator α} {text : String}

/-! ### Evaluating the text -/

theorem Refused.of_unread {fault : Fault} (hread : c.read text = .error fault) :
    Refused text c c := by
  have hnone (e : Expr) : c.read text ≠ .ok e := by
    rw [hread]
    nofun
  exact
    { tables := rfl
      unread := fun _ _ => rfl
      evaluated := fun e he => (hnone e he).elim
      logged := fun e he => (hnone e he).elim
      unchanged := fun _ _ _ _ => rfl }

theorem refused_valueOf (hroom : c.room.isSome = true) {e : Expr} (hread : c.read text = .ok e) :
    Refused text c (outcome (valueOf e) c).2 := by
  have hlogged := logged_valueOf hroom e
  have htables : (outcome (valueOf e) c).2 =
      { c with
        globals := (outcome (valueOf e) c).2.globals
        functions := (outcome (valueOf e) c).2.functions } := by
    rw [outcome_valueOf]
  have hunique : ∀ e', c.read text = .ok e' → e' = e := fun e' he' =>
    Except.ok.inj (he'.symm.trans hread)
  exact
    { tables := htables
      unread := fun fault h => nomatch hread.symm.trans h
      evaluated := fun e' he' => by rw [hunique e' he']
      logged := fun e' he' => hunique e' he' ▸ hlogged
      unchanged := fun e' he' hassigns hdefines => by
        cases hunique e' he'
        rw [htables, hlogged.scope.eq_of_none fun b hb => hassigns _ hb.1,
          hlogged.functions.eq_of_none fun b hb => hdefines _ hb.1] }

/-- **The text of a definition** is read and evaluated, and that is what is left. -/
theorem refused_valueOfDefinition (hroom : c.room.isSome = true) (text : String) :
    Refused text c (outcome (valueOfDefinition text) c).2 := by
  unfold valueOfDefinition
  rw [outcome_bind_ok (outcome_get c)]
  cases hread : c.read text with
  | error fault => exact .of_unread hread
  | ok e => exact refused_valueOf hroom hread

/-! ### Registering the value -/

omit [Scalar α] in
theorem atomic_registerInputUnit (name : String) (q : Quantity α) :
    Atomic (registerInputUnit name (pure q) : Step α (Quantity α)) :=
  Atomic.lift_bind fun _ => Atomic.of_succeeds fun _ => ⟨_, rfl⟩

theorem atomic_registerOutputUnit (display : Units) (q : Quantity α) :
    Atomic (registerOutputUnit display (pure q) : Step α (OutputUnit α)) := by
  refine Atomic.lift_bind fun q => ?_
  dsimp only
  split
  · exact Atomic.throw_bind _ _
  split
  · exact Atomic.throw_bind _ _
  · exact Atomic.of_succeeds fun _ => ⟨_, rfl⟩

/-- What is refused behind a definition's text leaves what the text has left. -/
theorem refused_of_atomic {β : Type} (hroom : c.room.isSome = true) {f : Quantity α → Step α β}
    (hf : ∀ q, Atomic (f q)) {fault : Fault}
    (h : (outcome (valueOfDefinition text >>= f) c).1 = .error fault) :
    Refused text c (outcome (valueOfDefinition text >>= f) c).2 := by
  have hvalue := refused_valueOfDefinition hroom text
  rw [outcome_bind] at h ⊢
  revert h hvalue
  rcases outcome (valueOfDefinition text) c with ⟨_ | q, c'⟩
  · exact fun _ hvalue => hvalue
  · exact fun h hvalue => (hf q c' fault h).symm ▸ hvalue

/-- **An input unit that is refused** leaves what evaluating its text has left. -/
theorem refused_defineInputUnit (hroom : c.room.isSome = true) {name : String} {fault : Fault}
    (h : (outcome (defineInputUnit name text) c).1 = .error fault) :
    Refused text c (outcome (defineInputUnit name text) c).2 :=
  refused_of_atomic hroom (atomic_registerInputUnit name) h

/-- **An output unit that is refused** leaves what evaluating its text has left. -/
theorem refused_defineOutputUnit (hroom : c.room.isSome = true) {display : Units} {fault : Fault}
    (h : (outcome (defineOutputUnit display text) c).1 = .error fault) :
    Refused text c (outcome (defineOutputUnit display text) c).2 :=
  refused_of_atomic hroom (atomic_registerOutputUnit display) h

end Calculator
end QuantityCalculus
