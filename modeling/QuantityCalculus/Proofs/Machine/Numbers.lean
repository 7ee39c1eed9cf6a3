/-
# Numbers in a run

A run evaluates the expression that it is given and the bodies of functions that it calls. If every
number in all of these has a value, no fault of the run blames a number; and the functions that the
run defines have their bodies from these expressions, so it stays like that for the next run.

**Main statements.** `Runs.spares`: the faults of a run; `Runs.legible`: the functions after it.
-/

import QuantityCalculus.Proofs.Expr.Numerals
import QuantityCalculus.Proofs.Machine.Writes
import QuantityCalculus.Proofs.Quantity.Complaint

namespace QuantityCalculus

open QuantityCalculus.Except (FailsOnly)

/-- The decimal mark of the settings is this character. -/
def Settings.HasDecimal (mark : Char) (s : Settings) : Prop :=
  s.decimal = .str (String.singleton mark)

/-- All numbers in the body have values under a decimal mark. -/
def Function.Legible (mark : Char) (f : Function) : Prop := f.body.Legible mark

variable {mark : Char}

/-- What is defined in an expression is part of it. -/
theorem Expr.Legible.definesOnly {e : Expr} (h : e.Legible mark) :
    e.DefinesOnly (Function.Legible mark) := by
  rintro f ⟨n, ps, c, body, c', hmem, hf⟩
  obtain ⟨names, -, hf⟩ := Except.bind_eq_ok_iff.1 hf
  obtain ⟨-, -, hf⟩ := Except.bind_eq_ok_iff.1 hf
  cases hf
  exact h.of_subset (walk_subset (walk_subset hmem (by simp [walk, self_mem_walk])))

variable {α : Type}

/-- A call is refused with other messages. -/
theorem Machine.spares_of_refusal {M : Machine α} {f : Function} {fault : Fault}
    (h : M.refusal? f = some fault) : fault.Spares := by
  unfold refusal? at h
  split at h
  · split at h
    · cases h
    · cases h
      exact CalcError.spares_callDepth _ _
  · cases h
  · cases h
    trivial

variable [Scalar α]

/-- A number is evaluated as it is read with the mark of the settings. -/
theorem Expr.valueOfScalar_eq {settings : Settings} (hdecimal : settings.HasDecimal mark)
    (x : String) :
    (valueOfScalar settings x : Except Fault (Quantity α)) =
      match Number.read? (x.toList.map (Number.pointFor mark)) with
      | some y => .ok (.pure (Scalar.ofReal y))
      | none => .error (.error (.invalid (.scalarText x))) := by
  have htext : settings.decimalText? = some (String.singleton mark) := by
    rw [Settings.decimalText?, hdecimal]
  unfold valueOfScalar
  rw [htext]
  dsimp only
  rw [Scalar.ofLiteral_eq]
  cases Number.read? (x.toList.map (Number.pointFor mark)) <;> rfl

/-- **A number that is legible** is evaluated without a fault, to a real number. -/
theorem Expr.Legible.exists_valueOfScalar {settings : Settings} {e : Expr} {x : String}
    (h : e.Legible mark) (hdecimal : settings.HasDecimal mark) (hx : .scalar x ∈ e.walk) :
    ∃ y : Float, (valueOfScalar settings x : Except Fault (Quantity α)) =
      .ok (.pure (Scalar.ofReal y)) := by
  obtain ⟨y, hy⟩ := h x hx
  refine ⟨y, ?_⟩
  have htext : settings.decimalText? = some (String.singleton mark) := by
    rw [Settings.decimalText?, hdecimal]
  unfold valueOfScalar
  rw [htext]
  dsimp only
  rw [hy]
  rfl

open Expr Machine

variable {host : Bool}

/-- **A run leaves functions legible** if they were and its expression is. -/
theorem Runs.legible {M M' : Machine α} {e : Expr} {r : Except Fault (Quantity α)}
    {t : List (CallEvent α)} (h : Runs host M e r M' t) (he : e.Legible mark)
    (hM : M.functions.All (Function.Legible mark)) :
    M'.functions.All (Function.Legible mark) :=
  h.functions (fun _ hf => Expr.Legible.definesOnly hf) he.definesOnly hM

theorem Expr.Legible.arguments {f c : String} {as : List Expr}
    (h : (Expr.call f as c).Legible mark) : ∀ a ∈ as, a.Legible mark :=
  fun _ ha => h.of_subset fun _ hb => List.mem_cons_of_mem _ (walk_subset_walkAll ha hb)

/-- So does a run of arguments. -/
theorem RunsAll.legible {M M' : Machine α} {es : List Expr}
    {r : Except Fault (List (Quantity α))} {t : List (CallEvent α)}
    (h : RunsAll host M es r M' t) (hes : ∀ e ∈ es, e.Legible mark)
    (hM : M.functions.All (Function.Legible mark)) :
    M'.functions.All (Function.Legible mark) := by
  have hwrites := h.writes (F := Function.Legible mark)
    (fun _ hf => Expr.Legible.definesOnly hf) (fun e he => (hes e he).definesOnly)
    fun entry hentry => Expr.Legible.definesOnly (hM entry hentry)
  exact hwrites.all (fun _ hf => hf) hM

mutual

/-- **No fault of a run blames a number** if all numbers in the expression and in the bodies of
functions have values. -/
theorem Runs.spares [Scalar.Sparing α] {M M' : Machine α} {e : Expr}
    {r : Except Fault (Quantity α)} {t : List (CallEvent α)} (h : Runs host M e r M' t)
    (hdecimal : M.settings.HasDecimal mark) (he : e.Legible mark)
    (hM : M.functions.All (Function.Legible mark)) : FailsOnly Fault.Spares r := by
  match h with
  | .exhausted _ => exact .error trivial
  | .scalar =>
    obtain ⟨y, hy⟩ := he.exists_valueOfScalar (α := α) hdecimal (self_mem_walk _)
    rw [hy]
    exact .ok _
  | .name => exact failsOnly_error (failsOnly_valueOfName _ _)
  | .unit _ | .define _ | .decided _ _ _ => exact .ok _
  | .unknownUnit _ | .unknownFunction _ _ _ => exact .error (Missing.spares _)
  | .badTarget _ _ => exact .error (Invalid.spares nofun)
  | .defineFails hf => exact .error (failsOnly_definition _ _ _ _ hf)
  | .single hs ha =>
    have hoperand := Runs.spares ha hdecimal (he.of_subset (walk_single hs)) hM
    exact hoperand.bind fun x => failsOnly_error (failsOnly_single hs x)
  | .pair hs ha hb =>
    have hbefore := ha.legible (he.of_subset (walk_pair hs).1) hM
    have hsecond := Runs.spares hb (ha.frame.settings ▸ hdecimal)
      (he.of_subset (walk_pair hs).2) hbefore
    exact hsecond.bind fun y => failsOnly_error (failsOnly_pair hs _ y)
  | .pairFails hs ha => exact Runs.spares ha hdecimal (he.of_subset (walk_pair hs).1) hM
  | .assign ha | .undecidedFails _ ha | .conditionalFails ha =>
    exact Runs.spares ha hdecimal (he.of_subset fun a ha => by simp [walk, ha]) hM
  | .undecided _ ha _ hb =>
    have hbefore := ha.legible (he.of_subset fun a ha => by simp [walk, ha]) hM
    have hsecond := Runs.spares hb (ha.frame.settings ▸ hdecimal)
      (he.of_subset fun a ha => by simp [walk, ha]) hbefore
    exact hsecond.map
  | .conditional (a := yes) (b := no) (c := content) (e := condition) (x := x) hc hb =>
    have hbranch : (if x.isTrue then yes else no).walk ⊆
        (Expr.conditional condition yes no content).walk := by
      intro a ha
      split at ha <;> simp [walk, ha]
    have hbefore := hc.legible (he.of_subset fun a ha => by simp [walk, ha]) hM
    exact Runs.spares hb (hc.frame.settings ▸ hdecimal) (he.of_subset hbranch) hbefore
  | .call has hf hcall =>
    have hbefore := has.legible he.arguments hM
    exact RunsCall.spares hcall (has.frame.settings ▸ hdecimal) (hbefore.of_get? hf) hbefore
  | .builtin _ _ _ => exact Builtin.failsOnly_apply _ _
  | .callFails has =>
    have harguments := RunsAll.spares has hdecimal he.arguments hM
    exact .error (harguments _ rfl)

theorem RunsAll.spares [Scalar.Sparing α] {M M' : Machine α} {es : List Expr}
    {r : Except Fault (List (Quantity α))} {t : List (CallEvent α)}
    (h : RunsAll host M es r M' t) (hdecimal : M.settings.HasDecimal mark)
    (hes : ∀ e ∈ es, e.Legible mark) (hM : M.functions.All (Function.Legible mark)) :
    FailsOnly Fault.Spares r := by
  match h with
  | .nil => exact .ok _
  | .cons ha has =>
    have hbefore := ha.legible (hes _ (List.mem_cons_self ..)) hM
    have hrest := RunsAll.spares has (ha.frame.settings ▸ hdecimal)
      (fun e he => hes e (List.mem_cons_of_mem _ he)) hbefore
    exact hrest.map
  | .consFails ha =>
    have hfirst := Runs.spares ha hdecimal (hes _ (List.mem_cons_self ..)) hM
    exact .error (hfirst _ rfl)

theorem RunsCall.spares [Scalar.Sparing α] {M M' : Machine α} {f : Function}
    {xs : List (Quantity α)} {r : Except Fault (Quantity α)} {t : List (CallEvent α)}
    (h : RunsCall host M f xs r M' t)
    (hdecimal : M.settings.HasDecimal mark) (hf : f.Legible mark)
    (hM : M.functions.All (Function.Legible mark)) : FailsOnly Fault.Spares r := by
  match h with
  | .exhausted _ _ => exact .error trivial
  | .refused hr => exact .error (spares_of_refusal hr)
  | .entered _ hb => exact Runs.spares hb hdecimal hf hM

end

end QuantityCalculus
