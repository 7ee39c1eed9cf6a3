/-
# Two evaluations side by side

Two expressions with the same nodes take the same way through an evaluation. So if the two stores
are related, and stay so at every assignment and definition, and if names, units and calls give
the same on both sides, the expressions have the same value and leave related stores.

Which expressions are compared is left open: it is a relation that goes on from a node to its
parts. What they may mention is left open as well.

**Main statement.** `agree_value`.
-/

import Mathlib.Data.List.Forall2
import QuantityCalculus.Expr.Value
import QuantityCalculus.Proofs.Except
import QuantityCalculus.Proofs.Steps

namespace QuantityCalculus
namespace Expr

/-- What two expressions may mention: pairs of names, units, functions by name and number of
arguments, and definitions. -/
structure Mentionable where
  names : String → String → Prop
  units : String → Prop
  keys : String × Nat → Prop
  definitions : String → List Expr → Expr → Prop

/-- Two expressions have the same node but for its content, its parts are related, and the node
mentions only what may be mentioned. -/
inductive SameNode (V : Mentionable) (E : Expr → Expr → Prop) : Expr → Expr → Prop
  | scalar (text : String) : SameNode V E (.scalar text) (.scalar text)
  | name {n n' : String} (hn : V.names n n') : SameNode V E (.name n) (.name n')
  | unit {word : String} (hw : V.units word) : SameNode V E (.unit word) (.unit word)
  | unary {op : UnaryOp} {a a' : Expr} {s s' : String} (ha : E a a') :
    SameNode V E (.unary op a s) (.unary op a' s')
  | binary {op : BinaryOp} {a a' b b' : Expr} {s s' : String} (hop : op ≠ .assign) (ha : E a a')
    (hb : E b b') : SameNode V E (.binary op a b s) (.binary op a' b' s')
  | assign {n n' : String} {b b' : Expr} {s s' : String} (hn : V.names n n') (hb : E b b') :
    SameNode V E (.binary .assign (.name n) b s) (.binary .assign (.name n') b' s')
  | define {f : String} {parameters : List Expr} {body : Expr} {s s' t t' : String}
    (hf : V.definitions f parameters body) :
    SameNode V E (.binary .assign (.call f parameters s) body t)
      (.binary .assign (.call f parameters s') body t')
  | badTarget {a a' b b' : Expr} {s s' : String}
    (hname : ∀ n, a ≠ .name n) (hcall : ∀ f as t, a ≠ .call f as t)
    (hname' : ∀ n, a' ≠ .name n) (hcall' : ∀ f as t, a' ≠ .call f as t) :
    SameNode V E (.binary .assign a b s) (.binary .assign a' b' s')
  | conditional {c c' a a' b b' : Expr} {s s' : String} (hc : E c c') (ha : E a a')
    (hb : E b b') : SameNode V E (.conditional c a b s) (.conditional c' a' b' s')
  | call {f : String} {as as' : List Expr} {s s' : String} (hf : V.keys (f, as.length))
    (has : List.Forall₂ E as as') : SameNode V E (.call f as s) (.call f as' s')

variable {α : Type} [Scalar α] {V : Mentionable} {E : Expr → Expr → Prop}
  {R : Store α → Store α → Prop} {ctx ctx' : Context α} {call call' : Caller α}

/-- What may be mentioned gives the same on both sides, and leaves related stores. -/
structure Mentionable.Agrees (V : Mentionable) (R : Store α → Store α → Prop)
    (ctx ctx' : Context α) (call call' : Caller α) : Prop where
  settings : ctx'.settings = ctx.settings
  name : ∀ {n n'}, V.names n n' → ∀ {st st'}, R st st' →
    (valueOfName (st'.scope :: ctx'.outer) n' : Except CalcError (Quantity α)) =
      valueOfName (st.scope :: ctx.outer) n
  unit : ∀ {word}, V.units word → ctx'.units.get? word = ctx.units.get? word
  assign : ∀ {n n'}, V.names n n' → ∀ x : Quantity α, Agree R (assign n x) (assign n' x)
  define : ∀ {f parameters body}, V.definitions f parameters body →
    Agree R (define f parameters body) (define f parameters body)
  apply : ∀ {f} {xs : List (Quantity α)}, V.keys (f, xs.length) → ∀ room,
    Agree R (applyFunction ctx call room f xs) (applyFunction ctx' call' room f xs)

/-- There are as many values as arguments. -/
theorem keeps_length (room : Room) (as : List Expr) :
    Keeps (fun _ => True) (fun xs => xs.length = as.length) (values ctx call room as) := by
  induction as with
  | nil =>
    rw [values]
    exact Keeps.pure rfl
  | cons a as ih =>
    rw [values]
    refine Keeps.bind (R := fun _ => True) (fun _ _ => ⟨trivial, fun _ _ => trivial⟩) fun x _ => ?_
    exact ih.bind fun xs hxs => Keeps.pure (congrArg Nat.succ hxs)

/-- **Expressions with the same nodes have the same value** in related stores and leave related
stores, if what they mention agrees. -/
theorem agree_value (hV : V.Agrees R ctx ctx' call call') (hE : ∀ e e', E e e' → SameNode V E e e') :
    (∀ room e, ∀ e', E e e' → Agree R (value ctx call room e) (value ctx' call' room e')) ∧
    ∀ room es, ∀ es', List.Forall₂ E es es' →
      Agree R (values ctx call room es) (values ctx' call' room es') := by
  refine value.mutual_induct ctx
    (fun room e => ∀ e', E e e' → Agree R (value ctx call room e) (value ctx' call' room e'))
    (fun room es => ∀ es', List.Forall₂ E es es' →
      Agree R (values ctx call room es) (values ctx' call' room es'))
    ?scalar ?name ?unit ?missingUnit ?strippedConversion ?unary ?assign ?define ?badTarget
    ?stripped ?logicalOr ?logicalAnd ?binary ?conditional ?call ?nil ?cons
  case scalar =>
    intro room text e' h
    cases hE _ _ h
    rw [value, value, hV.settings]
    exact Agree.lift _
  case name =>
    intro room n e' h
    cases hE _ _ h with
    | name hn =>
      rw [value, value]
      refine Agree.get_bind fun st st' h => ⟨?_, h⟩
      show Except.mapError Fault.error _ = Except.mapError Fault.error _
      rw [hV.name hn h]
  case unit =>
    intro room n q hq e' h
    cases hE _ _ h with
    | unit hw =>
      rw [value, value, hV.unit hw, hq]
      exact Agree.pure q
  case missingUnit =>
    intro room n hq e' h
    cases hE _ _ h with
    | unit hw =>
      rw [value, value, hV.unit hw, hq]
      exact Agree.throw _
  case strippedConversion =>
    intro room a b s t ha hb e' h
    cases hE _ _ h with
    | unary hin =>
      cases hE _ _ hin with
      | binary _ halike hblike =>
        rw [value, value]
        refine (Agree.lift _).bind fun room => (ha room _ halike).bind fun x => ?_
        exact (hb room _ hblike).bind fun y => (Agree.lift _).bind fun _ => Agree.pure _
  case unary =>
    intro room op a s hne ha e' h
    cases hE _ _ h with
    | unary halike =>
      rw [value, value]
      · exact (Agree.lift _).bind fun room => (ha room _ halike).bind fun x => Agree.lift _
      · intro x y z hop he
        subst hop he
        cases hE _ _ halike with
        | binary _ _ _ => exact hne _ _ _ rfl rfl
      · exact hne
  case assign =>
    intro room n b s hb e' h
    cases hE _ _ h with
    | binary hop => exact absurd rfl hop
    | badTarget hname => exact absurd rfl (hname n)
    | assign hn hblike =>
      rw [value, value]
      refine (Agree.lift _).bind fun room => (hb room _ hblike).bind fun x => ?_
      exact (hV.assign hn x).bind fun _ => Agree.pure x
  case define =>
    intro _ f parameters _ body _ e' h
    cases hE _ _ h with
    | binary hop => exact absurd rfl hop
    | badTarget _ hcall => exact absurd rfl (hcall _ _ _)
    | define hf =>
      rw [value, value]
      exact (hV.define hf).bind fun _ => Agree.pure _
  case badTarget =>
    intro _ left right _ hname hcall e' h
    cases hE _ _ h with
    | binary hop => exact absurd rfl hop
    | assign => exact absurd rfl (hname _)
    | define => exact absurd rfl (hcall _ _ _)
    | badTarget _ _ hname' hcall' =>
      rw [value, value]
      · exact Agree.throw _
      · exact hname'
      · exact hcall'
      · exact hname
      · exact hcall
  case stripped =>
    intro room a _ b _ ha hb e' h
    cases hE _ _ h with
    | binary _ hstripped hblike =>
      cases hE _ _ hstripped with
      | unary halike =>
        rw [value, value]
        refine (Agree.lift _).bind fun room => (ha room _ halike).bind fun x => ?_
        exact (hb room _ hblike).bind fun y => (Agree.lift _).bind fun _ => Agree.pure _
  case logicalOr =>
    intro room a b _ ha hb e' h
    cases hE _ _ h with
    | binary _ halike hblike =>
      rw [value, value]
      refine (Agree.lift _).bind fun room => (ha room _ halike).bind fun x => ?_
      split
      · exact Agree.pure _
      · exact (hb room _ hblike).bind fun y => Agree.pure _
  case logicalAnd =>
    intro room a b _ ha hb e' h
    cases hE _ _ h with
    | binary _ halike hblike =>
      rw [value, value]
      refine (Agree.lift _).bind fun room => (ha room _ halike).bind fun x => ?_
      split
      · exact (hb room _ hblike).bind fun y => Agree.pure _
      · exact Agree.pure _
  case binary =>
    intro room op a b _ h₁ h₂ h₃ h₄ h₅ h₆ ha hb e' h
    cases hE _ _ h with
    | assign => exact (h₁ _ rfl rfl).elim
    | define => exact (h₂ _ _ _ rfl rfl).elim
    | badTarget => exact (h₃ rfl).elim
    | binary hop halike hblike =>
      rw [value, value]
      · refine (Agree.lift _).bind fun room => (ha room _ halike).bind fun x => ?_
        exact (hb room _ hblike).bind fun y => Agree.lift _
      · exact fun _ h _ => hop h
      · exact fun _ _ _ h _ => hop h
      · exact hop
      · intro x s' hin he
        subst he
        cases hE _ _ halike
        exact h₄ _ _ hin rfl
      all_goals assumption
  case conditional =>
    intro room c a b _ hc ha hb e' h
    cases hE _ _ h with
    | conditional hclike halike hblike =>
      rw [value, value]
      refine (Agree.lift _).bind fun room => (hc room _ hclike).bind fun x => ?_
      split
      · exact ha room _ halike
      · exact hb room _ hblike
  case call =>
    intro room f as _ has e' h
    cases hE _ _ h with
    | call hf haslike =>
      rw [value, value]
      refine (Agree.lift _).bind fun inner => ?_
      refine (has inner _ haslike).bind_of (keeps_length inner as) fun xs hxs => ?_
      exact hV.apply (hxs ▸ hf) room
  case nil =>
    intro _ es' h
    cases h
    rw [values, values]
    exact Agree.pure _
  case cons =>
    intro room a as ha has es' h
    cases h with
    | cons halike haslike =>
      rw [values, values]
      exact (ha _ halike).bind fun x => (has _ haslike).bind fun xs => Agree.pure _

end Expr
end QuantityCalculus
