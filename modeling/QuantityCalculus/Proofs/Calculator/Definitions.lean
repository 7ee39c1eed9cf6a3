/-
# Functions that evaluation may define

An evaluation defines functions while it goes on, also within calls and also when it fails in
the end. Whatever it defines has a valid name and distinct parameters, is kept under its name
and number of arguments, and has the source text of its body.

**Main statement.** `keeps_evaluate`: an evaluation keeps all functions sound.
-/

import QuantityCalculus.Calculator.Register
import QuantityCalculus.Proofs.Except
import QuantityCalculus.Proofs.Steps
import QuantityCalculus.Proofs.Table

namespace QuantityCalculus

/-- A function that can be written down and registered again. -/
structure Function.Sound (f : Function) : Prop where
  /-- a valid name and distinct parameters -/
  check : Function.check f.name f.parameters = .ok ()
  /-- each parameter is what its value stands for -/
  parameters : ∀ p ∈ f.parameters, Calculator.parameterOf p.toJson = .ok p
  /-- the text is trimmed, unless it comes with the body -/
  bodyText : Text.trimmed f.bodyText = f.bodyText ∨ f.bodyText = f.body.content

/-- All functions of a table are sound and under their own name and number of arguments. -/
def Functions.Sound (fs : Functions) : Prop :=
  ∀ e ∈ fs.toList, e.1 = (e.2.name, e.2.arity) ∧ e.2.Sound

theorem Functions.Sound.define {fs : Functions} {f : Function} (h : fs.Sound) (hf : f.Sound) :
    (fs.define f).Sound :=
  Table.forall_insert h ⟨rfl, hf⟩

namespace Expr

variable {α : Type} [Scalar α]

/-- Steps of an evaluation that keep all functions sound. -/
abbrev KeepsSound {β : Type} (step : Eval α β) : Prop :=
  Keeps (fun st : Store α => st.functions.Sound) (fun _ => True) step

/-- The parameters of a definition are names. -/
theorem parameterOf_of_names {es : List Expr} {ps : List Parameter}
    (h : parameterNames es = .ok ps) :
    ∀ p ∈ ps, Calculator.parameterOf p.toJson = .ok p := by
  induction es generalizing ps with
  | nil =>
    cases h
    exact fun _ hp => by cases hp
  | cons e es ih =>
    cases e with
    | name n =>
      rw [parameterNames] at h
      cases hn : parameterNames es with
      | error e => rw [hn] at h; cases h
      | ok qs =>
        rw [hn] at h
        cases h
        intro p hp
        rcases List.mem_cons.1 hp with rfl | hp
        · rfl
        · exact ih hn p hp
    | _ => cases h

omit [Scalar α] in
theorem keeps_define (name : String) (parameters : List Expr) (body : Expr) :
    KeepsSound (define name parameters body : Eval α Unit) := by
  refine (Keeps.lift _).bind fun ps hps => (Keeps.lift _).bind fun _ hcheck => Keeps.modify ?_
  intro st hst
  have hps : parameterNames parameters = .ok ps := Except.mapError_eq_ok_iff.1 hps
  exact Functions.Sound.define hst
    { check := Except.mapError_eq_ok_iff.1 hcheck
      parameters := parameterOf_of_names hps
      bodyText := .inr rfl }

theorem keeps_applyFunction {ctx : Context α} {call : Caller α}
    (hcall : ∀ room f arguments, KeepsSound (call room f arguments)) (room : Room) (name : String)
    (arguments : List (Quantity α)) : KeepsSound (applyFunction ctx call room name arguments) := by
  refine Keeps.get.bind fun st _ => ?_
  split
  · exact hcall room _ arguments
  · split
    · exact Keeps.untouched _
    · exact Keeps.throw _

/-- **An expression keeps all functions sound,** if calls do. -/
theorem keeps_value {ctx : Context α} {call : Caller α}
    (hcall : ∀ room f arguments, KeepsSound (call room f arguments)) :
    (∀ room e, KeepsSound (value ctx call room e)) ∧
      ∀ room es, KeepsSound (values ctx call room es) := by
  refine value.mutual_induct ctx (fun room e => KeepsSound (value ctx call room e))
    (fun room es => KeepsSound (values ctx call room es))
    ?scalar ?name ?unit ?missingUnit ?strippedConversion ?unary ?assign ?define ?badTarget
    ?stripped ?logicalOr ?logicalAnd ?binary ?conditional ?call ?nil ?cons
  case scalar =>
    intro _ _
    rw [value]
    exact Keeps.untouched _
  case name =>
    intro _ _
    rw [value]
    exact Keeps.get.bind fun _ _ => Keeps.untouched _
  case unit =>
    intro _ _ q hq
    rw [value, hq]
    exact Keeps.pure trivial
  case missingUnit =>
    intro _ _ hq
    rw [value, hq]
    exact Keeps.throw _
  case strippedConversion =>
    intro room a b _ _ ha hb
    rw [value]
    refine (Keeps.untouched _).bind fun room _ => (ha room).bind fun x _ => ?_
    exact (hb room).bind fun y _ => (Keeps.untouched _).bind fun _ _ => Keeps.pure trivial
  case unary =>
    intro room op a _ hne ha
    rw [value]
    · exact (Keeps.untouched _).bind fun room _ => (ha room).bind fun x _ => Keeps.untouched _
    · exact hne
  case assign =>
    intro room n b _ hb
    rw [value]
    refine (Keeps.untouched _).bind fun room _ => (hb room).bind fun x _ => ?_
    exact (Keeps.modify fun _ h => h).bind fun _ _ => Keeps.pure trivial
  case define =>
    intro _ f parameters _ body _
    rw [value]
    exact (keeps_define f parameters body).bind fun _ _ => Keeps.pure trivial
  case badTarget =>
    intro _ left right _ hname hcall
    rw [value]
    · exact Keeps.throw _
    · exact hname
    · exact hcall
  case stripped =>
    intro room a _ b _ ha hb
    rw [value]
    refine (Keeps.untouched _).bind fun room _ => (ha room).bind fun x _ => ?_
    exact (hb room).bind fun y _ => (Keeps.untouched _).bind fun _ _ => Keeps.pure trivial
  case logicalOr =>
    intro room a b _ ha hb
    rw [value]
    refine (Keeps.untouched _).bind fun room _ => (ha room).bind fun x _ => ?_
    split
    · exact Keeps.pure trivial
    · exact (hb room).bind fun y _ => Keeps.pure trivial
  case logicalAnd =>
    intro room a b _ ha hb
    rw [value]
    refine (Keeps.untouched _).bind fun room _ => (ha room).bind fun x _ => ?_
    split
    · exact (hb room).bind fun y _ => Keeps.pure trivial
    · exact Keeps.pure trivial
  case binary =>
    intro room op a b _ h₁ h₂ h₃ h₄ h₅ h₆ ha hb
    rw [value]
    · refine (Keeps.untouched _).bind fun room _ => (ha room).bind fun x _ => ?_
      exact (hb room).bind fun y _ => Keeps.untouched _
    all_goals assumption
  case conditional =>
    intro room c a b _ hc ha hb
    rw [value]
    refine (Keeps.untouched _).bind fun room _ => (hc room).bind fun x _ => ?_
    split
    · exact ha room
    · exact hb room
  case call =>
    intro room f as _ has
    rw [value]
    refine (Keeps.untouched _).bind fun inner _ => (has inner).bind fun xs _ => ?_
    exact keeps_applyFunction hcall room f xs
  case nil =>
    intro _
    rw [values]
    exact Keeps.pure trivial
  case cons =>
    intro room a as ha has
    rw [values]
    exact ha.bind fun x _ => has.bind fun xs _ => Keeps.pure trivial

/-- **A call keeps all functions sound.** The body runs on the functions of the caller, and these
are left as the body leaves them. -/
theorem keeps_callWithin (left : Nat) (ctx : Context α) (room : Room) (f : Function)
    (arguments : List (Quantity α)) : KeepsSound (callWithin left ctx room f arguments) := by
  induction left generalizing ctx room f arguments with
  | zero => exact Keeps.throw _
  | succ left ih =>
    refine (Keeps.untouched _).bind fun room _ => Keeps.get.bind fun st hst => ?_
    let inside : Context α := { ctx with outer := st.scope :: ctx.outer }
    have hbody : KeepsSound (value inside (callWithin left inside) room f.body) :=
      (keeps_value fun room f arguments => ih inside room f arguments).1 room f.body
    let start : Store α := ⟨.ofArguments f.parameters arguments, st.functions⟩
    let after := (outcome (value inside (callWithin left inside) room f.body) start).2
    have hafter : after.functions.Sound := (hbody start hst).1
    have hset : KeepsSound (set { st with functions := after.functions } : Eval α PUnit) :=
      Keeps.set hafter
    exact hset.bind fun _ _ => Keeps.untouched _

/-- **An evaluation keeps all functions sound.** -/
theorem keeps_evaluate (ctx : Context α) (room : Room) (e : Expr) :
    KeepsSound (evaluate ctx room e) := by
  have hcall (room' : Room) (f : Function) (arguments : List (Quantity α)) :
      KeepsSound (caller ctx room room' f arguments) := by
    unfold caller
    cases ctx.settings.callLimit? with
    | none => exact Keeps.throw _
    | some limit =>
      cases limit with
      | atMost count => exact keeps_callWithin count ctx room' f arguments
      | unlimited => exact keeps_callWithin (room.getD 0) ctx room' f arguments
  exact (keeps_value hcall).1 room e

end Expr
end QuantityCalculus
