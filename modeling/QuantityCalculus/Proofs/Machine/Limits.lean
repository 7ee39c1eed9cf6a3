/-
# A higher limit on open calls

A run asks for the limit in one place only, where a call of a defined function begins or is refused.
So a run that no refusal has ended happens under a higher limit as well: call by call it goes the
same way, with the same result, the same events and the same machine after it.

**Main statement.** `Machine.resolve_withCallDepth`.
-/

import QuantityCalculus.Proofs.Machine.Depth
import QuantityCalculus.Proofs.Machine.Plain

namespace QuantityCalculus

namespace Settings

/-- The settings with another limit on open calls. -/
def withCallDepth (s : Settings) (d : Json) : Settings := { s with maxCallDepth := d }

/-- Under the other limit there may be at least as many open calls. -/
structure Raised (s : Settings) (d : Json) : Prop where
  counts : ∃ limit limit', s.callLimit? = some (.atMost limit) ∧
    (s.withCallDepth d).callLimit? = some (.atMost limit') ∧ limit ≤ limit'

/-- The fault of a call that is refused at the limit. -/
def Refuses (s : Settings) (fault : Fault) : Prop :=
  ∃ name, fault = .error (.callDepth s.maxCallDepth.plain name)

/-- No refused call has ended what ends so. -/
def Spares {β : Type} (s : Settings) (r : Except Fault β) : Prop :=
  ∀ fault, r = .error fault → ¬ s.Refuses fault

variable {β γ : Type} {s : Settings}

theorem Spares.ok (b : β) : s.Spares (.ok b) := nofun

theorem Spares.of_bind {r : Except Fault β} {f : β → Except Fault γ} (h : s.Spares (r >>= f)) :
    s.Spares r := by
  rintro fault rfl
  exact h fault rfl

theorem Spares.of_map {r : Except Fault β} {f : β → γ} (h : s.Spares (r.map f)) :
    s.Spares r := by
  rintro fault rfl
  exact h fault rfl

theorem Spares.of_error {fault : Fault} (h : s.Spares (.error fault : Except Fault β)) :
    s.Spares (.error fault : Except Fault γ) := by
  rintro _ ⟨⟩
  exact h fault rfl

end Settings

namespace Machine

variable {α : Type} {M : Machine α} {s : Settings} {d : Json} {f : Function}

/-- The machine with another limit on open calls. -/
def withCallDepth (M : Machine α) (d : Json) : Machine α :=
  { M with settings := M.settings.withCallDepth d }

theorem withCallDepth_assign (n : String) (r : Except Fault (Quantity α)) :
    (M.withCallDepth d).assign n r = (M.assign n r).withCallDepth d := by
  cases r <;> rfl

theorem withCallDepth_leave : (M.withCallDepth d).leave = M.leave.withCallDepth d := by
  cases M with
  | mk scope outer => cases outer <;> rfl

/-- A call that begins under a limit begins under a higher one. -/
theorem refusal?_withCallDepth (hs : s.Raised d) (hM : M.settings = s)
    (h : M.refusal? f = none) : (M.withCallDepth d).refusal? f = none := by
  obtain ⟨limit, limit', hlimit, hlimit', hle⟩ := hs.counts
  subst hM
  have hdepth : M.depth < limit := by
    refine Nat.lt_of_not_le fun hge => ?_
    simp [refusal?, hlimit, Nat.not_lt.2 hge] at h
  exact refusal?_of_lt (M := M.withCallDepth d) hlimit' (Nat.lt_of_lt_of_le hdepth hle)

/-- If a call is refused, that is the fault of a limit. -/
theorem refuses_of_refusal? (hs : s.Raised d) (hM : M.settings = s) {fault : Fault}
    (h : M.refusal? f = some fault) : s.Refuses fault := by
  obtain ⟨limit, -, hlimit, -, -⟩ := hs.counts
  subst hM
  unfold refusal? at h
  rw [hlimit] at h
  dsimp only at h
  split at h
  · cases h
  · cases h
    exact ⟨f.name, rfl⟩

end Machine

open Expr Machine Settings

variable {α : Type} [Scalar α] {host : Bool} {s : Settings} {d : Json}

mutual

/-- **A run that no refusal has ended** happens under a higher limit as well. -/
theorem Runs.withCallDepth (hs : s.Raised d) {M M' : Machine α} {e : Expr}
    {r : Except Fault (Quantity α)} {t : List (CallEvent α)} (h : Runs host M e r M' t)
    (hM : M.settings = s) (hr : s.Spares r) :
    Runs host (M.withCallDepth d) e r (M'.withCallDepth d) t := by
  match h with
  | .exhausted hhost => exact .exhausted hhost
  | .scalar => exact .scalar (M := M.withCallDepth d)
  | .name => exact .name (M := M.withCallDepth d)
  | .unit hu => exact .unit hu
  | .unknownUnit hu => exact .unknownUnit hu
  | .define hd => exact .define hd
  | .defineFails hd => exact .defineFails hd
  | .badTarget hn hc => exact .badTarget hn hc
  | .single he ha => exact .single he (Runs.withCallDepth hs ha hM hr.of_bind)
  | .pair he ha hb =>
    have hM' := (Runs.frame ha).settings.trans hM
    exact .pair he (Runs.withCallDepth hs ha hM (.ok _)) (Runs.withCallDepth hs hb hM' hr.of_bind)
  | .pairFails he ha => exact .pairFails he (Runs.withCallDepth hs ha hM hr)
  | .assign hb =>
    rw [← withCallDepth_assign]
    exact .assign (Runs.withCallDepth hs hb hM hr)
  | .decided hop ha hx => exact .decided hop (Runs.withCallDepth hs ha hM (.ok _)) hx
  | .undecided hop ha hx hb =>
    have hM' := (Runs.frame ha).settings.trans hM
    exact .undecided hop (Runs.withCallDepth hs ha hM (.ok _)) hx
      (Runs.withCallDepth hs hb hM' hr.of_map)
  | .undecidedFails hop ha => exact .undecidedFails hop (Runs.withCallDepth hs ha hM hr)
  | .conditional hc hb =>
    have hM' := (Runs.frame hc).settings.trans hM
    exact .conditional (Runs.withCallDepth hs hc hM (.ok _)) (Runs.withCallDepth hs hb hM' hr)
  | .conditionalFails hc => exact .conditionalFails (Runs.withCallDepth hs hc hM hr)
  | .call has hf hcall =>
    have hM' := (RunsAll.frame has).settings.trans hM
    exact .call (RunsAll.withCallDepth hs has hM (.ok _)) hf
      (RunsCall.withCallDepth hs hcall hM' hr)
  | .builtin has hf hb => exact .builtin (RunsAll.withCallDepth hs has hM (.ok _)) hf hb
  | .unknownFunction has hf hb =>
    exact .unknownFunction (RunsAll.withCallDepth hs has hM (.ok _)) hf hb
  | .callFails has => exact .callFails (RunsAll.withCallDepth hs has hM hr.of_error)

theorem RunsAll.withCallDepth (hs : s.Raised d) {M M' : Machine α} {es : List Expr}
    {r : Except Fault (List (Quantity α))} {t : List (CallEvent α)} (h : RunsAll host M es r M' t)
    (hM : M.settings = s) (hr : s.Spares r) :
    RunsAll host (M.withCallDepth d) es r (M'.withCallDepth d) t := by
  match h with
  | .nil => exact .nil
  | .cons ha has =>
    have hM' := (Runs.frame ha).settings.trans hM
    exact .cons (Runs.withCallDepth hs ha hM (.ok _)) (RunsAll.withCallDepth hs has hM' hr.of_map)
  | .consFails ha => exact .consFails (Runs.withCallDepth hs ha hM hr.of_error)

theorem RunsCall.withCallDepth (hs : s.Raised d) {M M' : Machine α} {f : Function}
    {xs : List (Quantity α)} {r : Except Fault (Quantity α)} {t : List (CallEvent α)}
    (h : RunsCall host M f xs r M' t) (hM : M.settings = s) (hr : s.Spares r) :
    RunsCall host (M.withCallDepth d) f xs r (M'.withCallDepth d) t := by
  match h with
  | .exhausted hhost hf => exact .exhausted hhost (refusal?_withCallDepth hs hM hf)
  | .refused hf => exact (hr _ rfl (refuses_of_refusal? hs hM hf)).elim
  | .entered hf hb =>
    rw [← withCallDepth_leave]
    exact .entered (refusal?_withCallDepth hs hM hf) (Runs.withCallDepth hs hb hM hr)

end

namespace Machine

/-- **Evaluating under a higher limit,** with a host whose frames never run out: what ends neither
with a refused call nor with the end of the frames ends the same, and leaves the same machine. -/
theorem resolve_withCallDepth (M : Machine α) {room : Room} (hs : M.settings.Raised d) (e : Expr)
    (hcall : M.settings.Spares (M.resolve room e).1)
    (hhost : room = none ∨ (M.resolve room e).1 ≠ .error .stackExhausted) :
    (M.withCallDepth d).resolve none e =
      ((M.resolve room e).1, (M.resolve room e).2.withCallDepth d) := by
  obtain ⟨limit, limit', hlimit, hlimit', -⟩ := hs.counts
  have hends : M.settings.callLimit? ≠ some .unlimited := by simp [hlimit]
  have hends' : (M.withCallDepth d).settings.callLimit? ≠ some .unlimited := by
    have hsettings : (M.withCallDepth d).settings = M.settings.withCallDepth d := rfl
    simp [hsettings, hlimit']
  obtain ⟨t, ht⟩ : ∃ t, Runs false M e (M.resolve room e).1 (M.resolve room e).2 t := by
    rcases hhost with rfl | hhost
    · exact M.runs_resolve (by simp) (.inr hends) e
    · obtain ⟨t, ht⟩ : ∃ t, Runs true M e (M.resolve room e).1 (M.resolve room e).2 t :=
        M.runs_resolve (fun _ => rfl) (.inr hends) e
      exact ⟨t, ht.settled hhost⟩
  obtain ⟨t', ht'⟩ : ∃ t, Runs false (M.withCallDepth d) e ((M.withCallDepth d).resolve none e).1
      ((M.withCallDepth d).resolve none e).2 t :=
    (M.withCallDepth d).runs_resolve (by simp) (.inr hends') e
  obtain ⟨hresult, hafter, -⟩ := ht'.unique (ht.withCallDepth hs rfl hcall)
  exact Prod.ext hresult hafter

end Machine
end QuantityCalculus
