/-
# A machine has one run

Which rule applies to an expression is fixed by its shape, by the value of its first operand and by
the tables of the machine. So an expression has no more than one run in a machine whose host does
not fail: what it ends with, the machine that it leaves and the events on the way are determined.

**Main statements.** `Runs.unique` and its companions for lists and calls.
-/

import QuantityCalculus.Proofs.Machine.Runs

namespace QuantityCalculus

namespace Expr

variable {α : Type} [Scalar α] {e a b x : Expr}

theorem single?_of_pair {f : Quantity α → Quantity α → Except CalcError (Quantity α)}
    (h : e.pair? = some (a, b, f)) : single? (α := α) e = none := by
  unfold pair? at h
  split at h <;> simp [single?] at h ⊢

/-- An operator that may leave its second operand out does not need both. -/
theorem pair?_of_decisive {op : BinaryOp} {stop : Bool} {c : String}
    (h : op.decisive? = some stop) : pair? (α := α) (.binary op a b c) = none := by
  cases op <;> first | rfl | cases h

end Expr

open Expr

variable {α : Type} [Scalar α]

mutual

theorem Runs.unique {M M₁ M₂ : Machine α} {e : Expr} {r₁ r₂ : Except Fault (Quantity α)}
    {t₁ t₂ : List (CallEvent α)} (h : Runs false M e r₁ M₁ t₁) (h' : Runs false M e r₂ M₂ t₂) :
    r₁ = r₂ ∧ M₁ = M₂ ∧ t₁ = t₂ := by
  match h with
  | .scalar | .name | .unit _ | .unknownUnit _ | .define _ | .defineFails _ | .badTarget _ _ =>
    cases h' <;> simp_all [single?, pair?, BinaryOp.decisive?]
  | .single hs ha =>
    cases h' with
    | single hs' ha' =>
      cases hs.symm.trans hs'
      obtain ⟨rfl, rfl, rfl⟩ := Runs.unique ha ha'
      exact ⟨rfl, rfl, rfl⟩
    | pair hp | pairFails hp => cases hs.symm.trans (single?_of_pair hp)
    | _ => simp_all [single?]
  | .pair hp ha hb =>
    cases h' with
    | single hs => cases hs.symm.trans (single?_of_pair hp)
    | pair hp' ha' hb' =>
      cases hp.symm.trans hp'
      obtain ⟨hx, rfl, rfl⟩ := Runs.unique ha ha'
      cases hx
      obtain ⟨rfl, rfl, rfl⟩ := Runs.unique hb hb'
      exact ⟨rfl, rfl, rfl⟩
    | pairFails hp' ha' =>
      cases hp.symm.trans hp'
      cases (Runs.unique ha ha').1
    | decided hop | undecided hop | undecidedFails hop =>
      cases hp.symm.trans (pair?_of_decisive hop)
    | _ => simp_all [pair?]
  | .pairFails hp ha =>
    cases h' with
    | single hs => cases hs.symm.trans (single?_of_pair hp)
    | pair hp' ha' =>
      cases hp.symm.trans hp'
      cases (Runs.unique ha ha').1
    | pairFails hp' ha' =>
      cases hp.symm.trans hp'
      exact Runs.unique ha ha'
    | decided hop | undecided hop | undecidedFails hop =>
      cases hp.symm.trans (pair?_of_decisive hop)
    | _ => simp_all [pair?]
  | .assign hb =>
    cases h' with
    | assign hb' =>
      obtain ⟨rfl, rfl, rfl⟩ := Runs.unique hb hb'
      exact ⟨rfl, rfl, rfl⟩
    | badTarget hne => exact (hne _ rfl).elim
    | _ => simp_all [single?, pair?, BinaryOp.decisive?]
  | .decided hop ha hx =>
    cases h' with
    | pair hp | pairFails hp => cases hp.symm.trans (pair?_of_decisive hop)
    | decided hop' ha' =>
      cases hop.symm.trans hop'
      obtain ⟨-, rfl, rfl⟩ := Runs.unique ha ha'
      exact ⟨rfl, rfl, rfl⟩
    | undecided hop' ha' hx' =>
      cases hop.symm.trans hop'
      cases (Runs.unique ha ha').1
      exact (hx' hx).elim
    | undecidedFails _ ha' => cases (Runs.unique ha ha').1
    | _ => simp_all [single?, BinaryOp.decisive?]
  | .undecided hop ha hx hb =>
    cases h' with
    | pair hp | pairFails hp => cases hp.symm.trans (pair?_of_decisive hop)
    | decided hop' ha' hx' =>
      cases hop.symm.trans hop'
      cases (Runs.unique ha ha').1
      exact (hx hx').elim
    | undecided hop' ha' _ hb' =>
      obtain ⟨-, rfl, rfl⟩ := Runs.unique ha ha'
      obtain ⟨rfl, rfl, rfl⟩ := Runs.unique hb hb'
      exact ⟨rfl, rfl, rfl⟩
    | undecidedFails _ ha' => cases (Runs.unique ha ha').1
    | _ => simp_all [single?, BinaryOp.decisive?]
  | .undecidedFails hop ha =>
    cases h' with
    | pair hp | pairFails hp => cases hp.symm.trans (pair?_of_decisive hop)
    | decided _ ha' | undecided _ ha' => cases (Runs.unique ha ha').1
    | undecidedFails _ ha' => exact Runs.unique ha ha'
    | _ => simp_all [single?, BinaryOp.decisive?]
  | .conditional hc hb =>
    cases h' with
    | conditional hc' hb' =>
      obtain ⟨hx, rfl, rfl⟩ := Runs.unique hc hc'
      cases hx
      obtain ⟨rfl, rfl, rfl⟩ := Runs.unique hb hb'
      exact ⟨rfl, rfl, rfl⟩
    | conditionalFails hc' => cases (Runs.unique hc hc').1
    | _ => simp_all [single?, pair?]
  | .conditionalFails hc =>
    cases h' with
    | conditional hc' => cases (Runs.unique hc hc').1
    | conditionalFails hc' => exact Runs.unique hc hc'
    | _ => simp_all [single?, pair?]
  | .call has hf hcall =>
    cases h' with
    | call has' hf' hcall' =>
      obtain ⟨hxs, rfl, rfl⟩ := RunsAll.unique has has'
      cases hxs
      cases hf.symm.trans hf'
      obtain ⟨rfl, rfl, rfl⟩ := RunsCall.unique hcall hcall'
      exact ⟨rfl, rfl, rfl⟩
    | builtin has' hf' | unknownFunction has' hf' =>
      obtain ⟨hxs, rfl, -⟩ := RunsAll.unique has has'
      cases hxs
      cases hf.symm.trans hf'
    | callFails has' => cases (RunsAll.unique has has').1
    | _ => simp_all [single?, pair?]
  | .builtin has hf hb =>
    cases h' with
    | call has' hf' =>
      obtain ⟨hxs, rfl, -⟩ := RunsAll.unique has has'
      cases hxs
      cases hf.symm.trans hf'
    | builtin has' _ hb' =>
      obtain ⟨hxs, rfl, rfl⟩ := RunsAll.unique has has'
      cases hxs
      cases hb.symm.trans hb'
      exact ⟨rfl, rfl, rfl⟩
    | unknownFunction has' _ hb' =>
      obtain ⟨hxs, rfl, -⟩ := RunsAll.unique has has'
      cases hxs
      cases hb.symm.trans hb'
    | callFails has' => cases (RunsAll.unique has has').1
    | _ => simp_all [single?, pair?]
  | .unknownFunction has hf hb =>
    cases h' with
    | call has' hf' =>
      obtain ⟨hxs, rfl, -⟩ := RunsAll.unique has has'
      cases hxs
      cases hf.symm.trans hf'
    | builtin has' _ hb' =>
      obtain ⟨hxs, rfl, -⟩ := RunsAll.unique has has'
      cases hxs
      cases hb.symm.trans hb'
    | unknownFunction has' =>
      obtain ⟨hxs, rfl, rfl⟩ := RunsAll.unique has has'
      cases hxs
      exact ⟨rfl, rfl, rfl⟩
    | callFails has' => cases (RunsAll.unique has has').1
    | _ => simp_all [single?, pair?]
  | .callFails has =>
    cases h' with
    | call has' | builtin has' | unknownFunction has' => cases (RunsAll.unique has has').1
    | callFails has' =>
      obtain ⟨hf, rfl, rfl⟩ := RunsAll.unique has has'
      cases hf
      exact ⟨rfl, rfl, rfl⟩
    | _ => simp_all [single?, pair?]

theorem RunsAll.unique {M M₁ M₂ : Machine α} {es : List Expr}
    {r₁ r₂ : Except Fault (List (Quantity α))} {t₁ t₂ : List (CallEvent α)}
    (h : RunsAll false M es r₁ M₁ t₁) (h' : RunsAll false M es r₂ M₂ t₂) :
    r₁ = r₂ ∧ M₁ = M₂ ∧ t₁ = t₂ := by
  match h with
  | .nil =>
    cases h'
    exact ⟨rfl, rfl, rfl⟩
  | .cons ha has =>
    cases h' with
    | cons ha' has' =>
      obtain ⟨hx, rfl, rfl⟩ := Runs.unique ha ha'
      cases hx
      obtain ⟨rfl, rfl, rfl⟩ := RunsAll.unique has has'
      exact ⟨rfl, rfl, rfl⟩
    | consFails ha' => cases (Runs.unique ha ha').1
  | .consFails ha =>
    cases h' with
    | cons ha' => cases (Runs.unique ha ha').1
    | consFails ha' =>
      obtain ⟨hf, rfl, rfl⟩ := Runs.unique ha ha'
      cases hf
      exact ⟨rfl, rfl, rfl⟩

theorem RunsCall.unique {M M₁ M₂ : Machine α} {f : Function} {xs : List (Quantity α)}
    {r₁ r₂ : Except Fault (Quantity α)} {t₁ t₂ : List (CallEvent α)}
    (h : RunsCall false M f xs r₁ M₁ t₁) (h' : RunsCall false M f xs r₂ M₂ t₂) :
    r₁ = r₂ ∧ M₁ = M₂ ∧ t₁ = t₂ := by
  match h with
  | .refused hr =>
    cases h' with
    | exhausted hhost => cases hhost
    | refused hr' =>
      cases hr.symm.trans hr'
      exact ⟨rfl, rfl, rfl⟩
    | entered hr' => cases hr.symm.trans hr'
  | .entered hr hb =>
    cases h' with
    | exhausted hhost => cases hhost
    | refused hr' => cases hr.symm.trans hr'
    | entered _ hb' =>
      obtain ⟨rfl, rfl, rfl⟩ := Runs.unique hb hb'
      exact ⟨rfl, rfl, rfl⟩

end
end QuantityCalculus
