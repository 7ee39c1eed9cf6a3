/-
# What a call depends on

An expression is followed in two stores that are in step, inside scopes in which the common names
have the same values. Whatever it does in one it does in the other, and it leaves them in step. A
call enters a new scope on both sides, in which the parameters of two functions that are alike are
in step again, so what is outside of the call is reached by common names only.

**Main statements.** `agree_alike`: expressions that are alike agree, if calls do;
`callsAgree_callWithin`: calls of functions that are alike agree.
-/

import QuantityCalculus.Proofs.Scopes.Alike
import QuantityCalculus.Proofs.Scopes.SideBySide

namespace QuantityCalculus

namespace Expr

variable {α : Type} [Scalar α] {K : Common} {ctx ctx' : Context α}
  {call call' : Caller α} {own : String → Prop} {ρ : String → String}

/-- Two contexts with the same units, built-in functions and settings. -/
structure SameTools (ctx ctx' : Context α) : Prop where
  units : ctx'.units = ctx.units
  builtins : ctx'.builtins = ctx.builtins
  settings : ctx'.settings = ctx.settings

/-- Steps that agree on stores in step. -/
abbrev AgreeIn (K : Common) (ctx ctx' : Context α) (own : String → Prop) (ρ : String → String)
    {β : Type} (x y : Eval α β) : Prop :=
  Agree (Linked K ctx.outer ctx'.outer own ρ) x y

/-- Calls of functions that are alike agree. -/
def CallsAgree (K : Common) (ctx ctx' : Context α) (own : String → Prop) (ρ : String → String)
    (call call' : Caller α) : Prop :=
  ∀ room (f f' : Function) (arguments : List (Quantity α)), f.Alike K f' →
    f.arity = arguments.length → AgreeIn K ctx ctx' own ρ (call room f arguments)
      (call' room f' arguments)

/-- The value of a name depends on what is bound to it. -/
theorem valueOfName_eq (scopes : List (Scope α)) (n : String) :
    valueOfName scopes n =
      match valueIn scopes n with
      | some q => .ok q
      | none =>
        match (Scalar.constant? n : Option α) with
        | some x => .ok (.pure x)
        | none => .error (.missing (.variable n)) := by
  unfold valueOfName valueIn
  cases lookupScopes scopes n <;> rfl

/-- In stores that are in step a name has the value of what it is renamed to. -/
theorem valueOfName_linked {outer outer' : List (Scope α)} {st st' : Store α}
    (h : Linked K outer outer' own ρ st st') (hρ : Renames K own ρ) {n : String}
    (hn : K.names n ∨ own n) :
    (valueOfName (st'.scope :: outer') (ρ n) : Except CalcError (Quantity α)) =
      valueOfName (st.scope :: outer) n := by
  rw [valueOfName_eq, valueOfName_eq]
  rcases hn with hn | hn
  · rw [hρ.fixes n hn, h.common n hn]
  · obtain ⟨v, v', hv, hv', hval⟩ := h.own n hn
    rw [valueIn_cons, valueIn_cons, hv, hv', Option.map_some, Option.map_some, hval]
    rfl

omit [Scalar α] in
theorem agree_define (f : String) (parameters : List Expr) (body : Expr)
    (hbody : K.keys (f, parameters.length) → ∀ names, parameterNames parameters = .ok names →
      body.Alike K (Parameter.Binds names) id body) :
    AgreeIn K ctx ctx' own ρ (define f parameters body : Eval α Unit)
      (define f parameters body) := by
  refine (Agree.lift _).bind_of (Keeps.lift _) fun names hnames => ?_
  refine (Agree.lift _).bind fun _ => Agree.modify fun st st' h => ?_
  have hnames : parameterNames parameters = .ok names := Except.mapError_eq_ok_iff.1 hnames
  refine ⟨h.functions.define rfl rfl fun hkey => Function.alike_self (hbody ?_ names hnames),
    h.common, h.own⟩
  rwa [← length_parameterNames hnames]

theorem agree_applyFunction (htools : SameTools ctx ctx')
    (hcall : CallsAgree K ctx ctx' own ρ call call') (room : Room) (name : String)
    (arguments : List (Quantity α)) (hkey : K.keys (name, arguments.length)) :
    AgreeIn K ctx ctx' own ρ (applyFunction ctx call room name arguments)
      (applyFunction ctx' call' room name arguments) := by
  refine Agree.get_bind fun st st' h => ?_
  rcases h.functions _ hkey with ⟨hf, hf'⟩ | ⟨f, f', hf, hf', harity, halike⟩
  · rw [hf, hf', htools.builtins]
    dsimp only
    split
    · exact ⟨rfl, h⟩
    · exact ⟨rfl, h⟩
  · rw [hf, hf']
    exact hcall room f f' arguments halike harity st st' h

/-- What expressions that are alike may mention. -/
def mentionable (K : Common) (own : String → Prop) (ρ : String → String) : Mentionable where
  names n n' := n' = ρ n ∧ (K.names n ∨ own n)
  units _ := True
  keys := K.keys
  definitions f parameters body := K.keys (f, parameters.length) →
    ∀ names, parameterNames parameters = .ok names →
      body.Alike K (Parameter.Binds names) id body

theorem agrees_mentionable (htools : SameTools ctx ctx') (hρ : Renames K own ρ)
    (hcall : CallsAgree K ctx ctx' own ρ call call') :
    (mentionable K own ρ).Agrees (Linked K ctx.outer ctx'.outer own ρ) ctx ctx' call call' where
  settings := htools.settings
  name := by
    rintro n _ ⟨rfl, hn⟩ st st' h
    exact valueOfName_linked h hρ hn
  unit _ := by rw [htools.units]
  assign := by
    rintro n _ ⟨rfl, hn⟩ x
    exact Agree.modify fun st st' h => h.assign hρ hn _
  define hf := agree_define _ _ _ hf
  apply hkey room := agree_applyFunction htools hcall room _ _ hkey

theorem AlikeAll.forall₂ {es es' : List Expr} :
    AlikeAll K own ρ es es' → List.Forall₂ (Alike K own ρ) es es'
  | .nil => .nil
  | .cons ha has => .cons ha has.forall₂

theorem Alike.sameNode {e e' : Expr} (h : Alike K own ρ e e') :
    SameNode (mentionable K own ρ) (Alike K own ρ) e e' := by
  cases h with
  | scalar text => exact .scalar text
  | name hn => exact .name ⟨rfl, hn⟩
  | unit word => exact .unit trivial
  | unary ha => exact .unary ha
  | binary hop ha hb => exact .binary hop ha hb
  | assign hn hb => exact .assign ⟨rfl, hn⟩ hb
  | define hbody => exact .define hbody
  | badTarget hname hcall hname' hcall' => exact .badTarget hname hcall hname' hcall'
  | conditional hc ha hb => exact .conditional hc ha hb
  | call hf has => exact .call hf has.forall₂

/-- **Expressions that are alike have the same value** in stores that are in step, and leave them
in step, if calls do. -/
theorem agree_alike (htools : SameTools ctx ctx') (hρ : Renames K own ρ)
    (hcall : CallsAgree K ctx ctx' own ρ call call') (room : Room) {e e' : Expr}
    (h : Alike K own ρ e e') :
    AgreeIn K ctx ctx' own ρ (value ctx call room e) (value ctx' call' room e') :=
  (agree_value (agrees_mentionable htools hρ hcall) fun _ _ => Alike.sameNode).1 room e e' h

/-- **Calls of functions that are alike agree.** The bodies run in scopes of their own, which are
in step, inside the scopes of the callers. -/
theorem callsAgree_callWithin (left : Nat) (htools : SameTools ctx ctx')
    (own : String → Prop) (ρ : String → String) :
    CallsAgree K ctx ctx' own ρ (callWithin left ctx) (callWithin left ctx') := by
  induction left generalizing ctx ctx' own ρ with
  | zero =>
    intro room f f' arguments hf _
    show Agree _ (throw _) (throw _)
    rw [htools.settings, hf.name]
    exact Agree.throw _
  | succ left ih =>
    intro room f f' arguments hf harity
    refine (Agree.lift (room.spend 3)).bind fun inner => Agree.get_bind fun st st' h => ?_
    obtain ⟨ρ', hρ', hparameters, hbody⟩ := hf.renamed
    let inside := { ctx with outer := st.scope :: ctx.outer }
    let inside' := { ctx' with outer := st'.scope :: ctx'.outer }
    have htools' : SameTools inside inside' := ⟨htools.units, htools.builtins, htools.settings⟩
    have hlinked := linked_arguments h.functions h.common hρ' harity
    rw [← hparameters] at hlinked
    obtain ⟨hresult, hafter⟩ := agree_alike htools' hρ' (ih htools' _ ρ') inner hbody _ _ hlinked
    exact ⟨hresult, hafter.functions, h.common, h.own⟩

end Expr
end QuantityCalculus
