/-
# Faults that come out of a run

Nearly everything that goes wrong in a run is a calculation error or the end of the host's frames,
and both become the message of a failed outcome. The marks and the limit of sound settings are of
the right type, and the arithmetic of scalars has an error for whatever it cannot do. There is one
exception: rounding to a number of decimals may leave the range of doubles, and then the run ends
with an overflow that nobody reports.

**Main statement.** `Runs.explained`: the fault of a run is reported, or `round` was applied to a
value and a number of decimals for which it overflows.
-/

import QuantityCalculus.Proofs.Machine.Frame

namespace QuantityCalculus

/-- Faults that become the message of a failed outcome. -/
def Fault.Reported : Fault → Prop
  | error _ | stackExhausted => True
  | _ => False

variable {α β γ : Type}

/-! ### Computations whose faults are reported -/

/-- Whatever fault a computation ends with is reported. -/
def Reports (x : Except Fault β) : Prop := ∀ fault, x = .error fault → fault.Reported

namespace Reports

theorem ok (b : β) : Reports (.ok b) := nofun

theorem error {fault : Fault} (h : fault.Reported) : Reports (.error fault : Except Fault β) := by
  rintro _ ⟨⟩
  exact h

theorem error_calculation (cause : CalcError) :
    Reports (.error (.error cause) : Except Fault β) :=
  error trivial

/-- Calculation errors are reported. -/
theorem calculated (x : Except CalcError β) : Reports (x.mapError .error) := by
  cases x with
  | ok b => exact ok b
  | error cause => exact error_calculation cause

protected theorem bind {x : Except Fault β} {f : β → Except Fault γ} (hx : Reports x)
    (hf : ∀ b, Reports (f b)) : Reports (x >>= f) := by
  cases x with
  | ok b => exact hf b
  | error fault => exact error (hx fault rfl)

end Reports

variable [Scalar α]

/-- Reading a number fails with a calculation error, if the decimal mark is text. -/
theorem Expr.reports_valueOfScalar {settings : Settings} {decimal : String}
    (h : settings.decimalText? = some decimal) (text : String) :
    Reports (valueOfScalar settings text : Except Fault (Quantity α)) := by
  unfold valueOfScalar
  rw [h]
  refine Reports.bind ?_ fun x => .ok _
  cases (Scalar.ofLiteral text decimal : Except Invalid α) with
  | ok x => exact .ok x
  | error cause => exact .error trivial

theorem Expr.reports_definition (n : String) (parameters : List Expr) (body : Expr) :
    Reports (definition n parameters body) := by
  refine (Reports.calculated _).bind fun names => Reports.bind ?_ fun _ => .ok _
  cases Function.check n names with
  | ok _ => exact .ok _
  | error cause => exact .error trivial

namespace Builtin

/-- A quantity has no rounding to so many decimals among the doubles. -/
def RoundsOut (a digits : Quantity α) : Prop :=
  ∃ places, Number.truncate? (Scalar.re digits.scalar) = some places ∧
    Number.roundPlaces? (Scalar.re a.scalar) places = none

theorem applyRoundPlaces_fault {a digits : Quantity α} {fault : Fault}
    (h : applyRoundPlaces a digits = .error fault) :
    fault.Reported ∨ fault = .overflow ∧ RoundsOut a digits := by
  unfold applyRoundPlaces at h
  cases hn : requireNumber "round" digits with
  | error cause =>
    rw [hn] at h
    cases h
    exact .inl trivial
  | ok _ =>
    rw [hn] at h
    cases hplaces : Number.truncate? (Scalar.re digits.scalar) with
    | none =>
      rw [hplaces] at h
      cases h
      exact .inl trivial
    | some places =>
      rw [hplaces] at h
      cases hrounded : Number.roundPlaces? (Scalar.re a.scalar) places with
      | some x =>
        simp only [hrounded] at h
        cases h
      | none =>
        simp only [hrounded] at h
        cases h
        exact .inr ⟨rfl, places, hplaces, hrounded⟩

/-- A built-in function fails with a calculation error, unless it rounds out of the range. -/
theorem apply_fault {b : Builtin} {xs : List (Quantity α)} {fault : Fault}
    (h : b.apply xs = .error fault) :
    fault.Reported ∨
      fault = .overflow ∧ b = .roundPlaces ∧ ∃ a digits, xs = [a, digits] ∧ RoundsOut a digits := by
  unfold apply at h
  split at h
  · exact .inl (Reports.calculated _ _ h)
  · rename_i x y
    have hsame (name : String) (q : Quantity α) :
        Reports ((requireSame name x y : Except Fault Unit) >>= fun _ => pure q) :=
      (Reports.calculated _).bind fun _ => .ok q
    unfold applyBinary at h
    split at h
    · exact (applyRoundPlaces_fault h).imp_right fun h => ⟨h.1, rfl, x, y, rfl, h.2⟩
    · exact .inl (hsame _ _ _ h)
    · exact .inl (hsame _ _ _ h)
    · exact .inl (hsame _ _ _ h)
    · exact .inl (Reports.error_calculation _ _ h)
  · exact .inl (Reports.error_calculation _ _ h)

end Builtin

/-! ### Runs -/

/-- A fault is reported, or a rounding among the events has overflowed. -/
def Explained (r : Except Fault β) (t : List (CallEvent α)) : Prop :=
  ∀ fault, r = .error fault → fault.Reported ∨
    fault = .overflow ∧ ∃ a digits, .applied .roundPlaces [a, digits] ∈ t ∧
      Builtin.RoundsOut a digits

namespace Explained

variable {r : Except Fault β} {r' : Except Fault γ} {t t' : List (CallEvent α)}

theorem reports (h : Reports r) : Explained r t := fun fault hr => .inl (h fault hr)

/-- Further events explain no less, and what follows may only add faults that are reported. -/
theorem fails (h : Explained r t) (hr : ∀ fault, r' = .error fault →
    r = .error fault ∨ fault.Reported) (ht : t ⊆ t') : Explained r' t' := by
  intro fault hfault
  rcases hr fault hfault with hfault | hfault
  · rcases h fault hfault with h | ⟨h, a, digits, hmem, hout⟩
    · exact .inl h
    · exact .inr ⟨h, a, digits, ht hmem, hout⟩
  · exact .inl hfault

theorem bind {f : β → Except Fault γ} (h : Explained r t) (hf : ∀ b, Reports (f b))
    (ht : t ⊆ t') : Explained (r >>= f) t' := by
  refine h.fails ?_ ht
  cases r with
  | error fault => exact fun _ h => .inl (by cases h; rfl)
  | ok b => exact fun fault h => .inr (hf b fault h)

theorem map {f : β → γ} (h : Explained r t) (ht : t ⊆ t') : Explained (r.map f) t' := by
  refine h.fails ?_ ht
  cases r with
  | error fault => exact fun _ h => .inl (by cases h; rfl)
  | ok b => nofun

end Explained

omit [Scalar α] in
/-- A call is refused with a calculation error, if there is a limit at all. -/
theorem Machine.reported_of_refusal (M : Machine α) {limit : CallLimit} {f : Function}
    {fault : Fault} (hlimit : M.settings.callLimit? = some limit)
    (h : M.refusal? f = some fault) : fault.Reported := by
  unfold refusal? at h
  rw [hlimit] at h
  cases limit with
  | unlimited => cases h
  | atMost count =>
    dsimp only at h
    split at h
    · cases h
    · cases h
      trivial

open Expr

variable {host : Bool} {limit : CallLimit} {decimal : String}

mutual

/-- **The fault of a run** is reported, or a rounding on the way has overflowed. -/
theorem Runs.explained {M M' : Machine α} {e : Expr} {r : Except Fault (Quantity α)}
    {t : List (CallEvent α)} (h : Runs host M e r M' t)
    (hlimit : M.settings.callLimit? = some limit)
    (hdecimal : M.settings.decimalText? = some decimal) : Explained r t := by
  match h with
  | .exhausted _ => exact .reports (.error trivial)
  | .scalar => exact .reports (reports_valueOfScalar hdecimal _)
  | .name => exact .reports (.calculated _)
  | .unit _ | .define _ | .decided _ _ _ => exact .reports (.ok _)
  | .unknownUnit _ | .badTarget _ _ | .unknownFunction _ _ _ =>
    exact .reports (.error_calculation _)
  | .defineFails hd => exact .reports (.error (reports_definition _ _ _ _ hd))
  | .single _ ha =>
    have hoperand := Runs.explained ha hlimit hdecimal
    exact hoperand.bind (fun _ => .calculated _) (List.Subset.refl _)
  | .pair _ ha hb =>
    have hsettings := (Runs.frame ha).settings
    have hsecond := Runs.explained hb (hsettings ▸ hlimit) (hsettings ▸ hdecimal)
    exact hsecond.bind (fun _ => .calculated _) (List.subset_append_right ..)
  | .pairFails _ ha | .assign ha | .undecidedFails _ ha | .conditionalFails ha =>
    have hoperand := Runs.explained ha hlimit hdecimal
    exact hoperand
  | .undecided _ ha _ hb =>
    have hsettings := (Runs.frame ha).settings
    have hsecond := Runs.explained hb (hsettings ▸ hlimit) (hsettings ▸ hdecimal)
    exact hsecond.map (List.subset_append_right ..)
  | .conditional hc hb =>
    have hsettings := (Runs.frame hc).settings
    have hbranch := Runs.explained hb (hsettings ▸ hlimit) (hsettings ▸ hdecimal)
    exact hbranch.fails (fun _ h => .inl h) (List.subset_append_right ..)
  | .call has _ hcall =>
    have hsettings := (RunsAll.frame has).settings
    have hbody := RunsCall.explained hcall (hsettings ▸ hlimit) (hsettings ▸ hdecimal)
    exact hbody.fails (fun _ h => .inl h) (List.subset_append_right ..)
  | .builtin has _ _ =>
    intro fault hfault
    refine (Builtin.apply_fault hfault).imp_right ?_
    rintro ⟨hoverflow, rfl, a, digits, rfl, hout⟩
    exact ⟨hoverflow, a, digits, List.mem_append_right _ (List.mem_singleton_self _), hout⟩
  | .callFails has =>
    have harguments := RunsAll.explained has hlimit hdecimal
    exact harguments.fails (fun _ h => .inl (by cases h; rfl)) (List.Subset.refl _)

theorem RunsAll.explained {M M' : Machine α} {es : List Expr}
    {r : Except Fault (List (Quantity α))} {t : List (CallEvent α)}
    (h : RunsAll host M es r M' t) (hlimit : M.settings.callLimit? = some limit)
    (hdecimal : M.settings.decimalText? = some decimal) : Explained r t := by
  match h with
  | .nil => exact .reports (.ok _)
  | .cons ha has =>
    have hsettings := (Runs.frame ha).settings
    have hrest := RunsAll.explained has (hsettings ▸ hlimit) (hsettings ▸ hdecimal)
    exact hrest.map (List.subset_append_right ..)
  | .consFails ha =>
    have hfirst := Runs.explained ha hlimit hdecimal
    exact hfirst.fails (fun _ h => .inl (by cases h; rfl)) (List.Subset.refl _)

theorem RunsCall.explained {M M' : Machine α} {f : Function} {xs : List (Quantity α)}
    {r : Except Fault (Quantity α)} {t : List (CallEvent α)} (h : RunsCall host M f xs r M' t)
    (hlimit : M.settings.callLimit? = some limit)
    (hdecimal : M.settings.decimalText? = some decimal) : Explained r t := by
  match h with
  | .exhausted _ _ => exact .reports (.error trivial)
  | .refused hr => exact .reports (.error (M.reported_of_refusal hlimit hr))
  | .entered _ hb =>
    have hbody := Runs.explained hb hlimit hdecimal
    exact hbody.fails (fun _ h => .inl h) fun _ h =>
      List.mem_cons_of_mem _ (List.mem_append_left _ h)

end

end QuantityCalculus
