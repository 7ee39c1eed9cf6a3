/-
# The limit on open calls

Evaluation ends, whatever the functions call: the rules of a run have no measure, so that an
expression that is evaluated forever has no run, and every expression has one. Functions may call
themselves and each other, within arguments, and may define functions while they run.

Along the way no more calls are open than the limit says. A call that comes when just as many are
open is refused with a message that names the function; its body does not begin, and nothing else
happens in the run but that the open calls are left.

**Main statement.** `Machine.resolve_ends`.
-/

import QuantityCalculus.Proofs.Machine.Frame
import QuantityCalculus.Proofs.Machine.Unique
import QuantityCalculus.Proofs.Machine.Values
import QuantityCalculus.Scalar.Real

namespace QuantityCalculus

variable {α : Type}

/-- How many calls are open after an event. -/
def CallEvent.count : Nat → CallEvent α → Nat
  | n, entered _ => n + 1
  | n, left _ => n - 1
  | n, refused _ | n, applied _ _ => n

/-- How many calls are open after some events, if so many were open before. -/
def activeAfter (n : Nat) (t : List (CallEvent α)) : Nat := t.foldl CallEvent.count n

theorem activeAfter_append (n : Nat) (t t' : List (CallEvent α)) :
    activeAfter n (t ++ t') = activeAfter (activeAfter n t) t' :=
  List.foldl_append

/-- The events of a run that starts in a machine and keeps a limit. -/
structure Guarded {β : Type} (M : Machine α) (limit : Nat) (r : Except Fault β)
    (t : List (CallEvent α)) : Prop where
  /-- every call that was opened is closed -/
  settled : activeAfter M.depth t = M.depth
  /-- no more calls are open at once -/
  bounded : ∀ p s, t = p ++ s → activeAfter M.depth p ≤ limit
  /-- a call is refused at the limit, and everything ends with that -/
  ending : ∀ p f s, t = p ++ .refused f :: s → activeAfter M.depth p = limit ∧
    r = .error (.error (.callDepth M.settings.maxCallDepth.plain f.name)) ∧
    ∀ event ∈ s, ∃ g, event = .left g

namespace Guarded

variable {β γ : Type} {M M' : Machine α} {limit : Nat} {r : Except Fault β} {r' : Except Fault γ}
  {t t' : List (CallEvent α)}

theorem nil (h : M.depth ≤ limit) : Guarded M limit r [] where
  settled := rfl
  bounded p s hp := by
    obtain ⟨rfl, -⟩ := List.nil_eq_append_iff.1 hp
    exact h
  ending p f s hp := by simp at hp

/-- A failure stays the failure of what follows. -/
theorem fails (h : Guarded M limit r t) (hr : ∀ fault, r = .error fault → r' = .error fault) :
    Guarded M limit r' t where
  settled := h.settled
  bounded := h.bounded
  ending p f s hp :=
    have ⟨hlimit, hfault, hs⟩ := h.ending p f s hp
    ⟨hlimit, hr _ hfault, hs⟩

/-- Behind a value the next run goes on with as many open calls. -/
theorem append {b : β} (h : Guarded M limit (.ok b : Except Fault β) t)
    (hdepth : M'.depth = M.depth) (hsettings : M'.settings = M.settings)
    (h' : Guarded M' limit r' t') : Guarded M limit r' (t ++ t') := by
  have hafter (p : List (CallEvent α)) :
      activeAfter M.depth (t ++ p) = activeAfter M'.depth p := by
    rw [activeAfter_append, h.settled, hdepth]
  have hbehind (p : List (CallEvent α)) (f : Function) (s : List (CallEvent α))
      (hp : t' = p ++ .refused f :: s) : activeAfter M.depth (t ++ p) = limit ∧
        r' = .error (.error (.callDepth M.settings.maxCallDepth.plain f.name)) ∧
        ∀ event ∈ s, ∃ g, event = .left g := by
    rw [hafter, ← hsettings]
    exact h'.ending p f s hp
  refine ⟨?settled, ?bounded, ?ending⟩
  case settled => rw [hafter, h'.settled, hdepth]
  case bounded =>
    intro p s hp
    rcases List.append_eq_append_iff.1 hp with ⟨p', rfl, hp'⟩ | ⟨s', hs', -⟩
    · rw [hafter]
      exact h'.bounded p' s hp'
    · exact h.bounded p s' hs'
  case ending =>
    intro p f s hp
    rcases List.append_eq_append_iff.1 hp with ⟨p', rfl, hp'⟩ | ⟨s', rfl, hs'⟩
    · exact hbehind p' f s hp'
    · cases s' with
      | nil => simpa using hbehind [] f s hs'.symm
      | cons event s' =>
        -- nothing was refused before, since the first run has a value
        obtain ⟨rfl, -⟩ := List.cons.inj hs'
        obtain ⟨-, hfault, -⟩ := h.ending p f s' rfl
        cases hfault

/-- A refused call ends everything. -/
theorem refused (h : M.depth = limit) (f : Function) :
    Guarded M limit
      (.error (.error (.callDepth M.settings.maxCallDepth.plain f.name)) : Except Fault β)
      [.refused f] := by
  refine ⟨rfl, ?_, ?_⟩
  · intro p s hp
    rcases List.cons_eq_append_iff.1 hp with ⟨rfl, -⟩ | ⟨p', rfl, hp'⟩
    · exact Nat.le_of_eq h
    · obtain ⟨rfl, -⟩ := List.nil_eq_append_iff.1 hp'
      exact Nat.le_of_eq h
  · intro p g s hp
    rcases List.cons_eq_append_iff.1 hp with ⟨rfl, hg⟩ | ⟨p', -, hp'⟩
    · obtain ⟨hg, rfl⟩ := List.cons.inj hg
      cases hg
      exact ⟨h, rfl, fun _ h => by cases h⟩
    · simp at hp'

/-- Built-in functions open no call. -/
theorem applied {b : β} (h : Guarded M limit (.ok b : Except Fault β) t) (f : Builtin)
    (xs : List (Quantity α)) : Guarded M limit r' (t ++ [.applied f xs]) := by
  have hdepth : M.depth ≤ limit := h.bounded [] t rfl
  refine h.append rfl rfl ⟨rfl, ?_, ?_⟩
  · intro p s hp
    rcases List.cons_eq_append_iff.1 hp with ⟨rfl, -⟩ | ⟨p', rfl, hp'⟩
    · exact hdepth
    · obtain ⟨rfl, -⟩ := List.nil_eq_append_iff.1 hp'
      exact hdepth
  · intro p g s hp
    rcases List.cons_eq_append_iff.1 hp with ⟨-, hg⟩ | ⟨p', -, hp'⟩
    · cases hg
    · simp at hp'

/-- The body of a call runs with one more open call. -/
theorem entered {f : Function} {xs : List (Quantity α)} (h : Guarded (M.enter f xs) limit r t) :
    Guarded M limit r (.entered f :: (t ++ [.left f])) := by
  have hbody (p : List (CallEvent α)) :
      activeAfter M.depth (.entered f :: p) = activeAfter (M.enter f xs).depth p := rfl
  have hbound : M.depth + 1 ≤ limit := h.bounded [] t rfl
  have hsettled : activeAfter M.depth (.entered f :: (t ++ [.left f])) = M.depth := by
    rw [hbody, activeAfter_append, h.settled]
    rfl
  refine ⟨hsettled, ?bounded, ?ending⟩
  case bounded =>
    intro p s hp
    rcases List.cons_eq_append_iff.1 hp with ⟨rfl, -⟩ | ⟨p', rfl, hp'⟩
    · exact Nat.le_of_succ_le hbound
    · rcases List.append_eq_append_iff.1 hp' with ⟨q, rfl, hq⟩ | ⟨s', hs', -⟩
      · cases q with
        | nil =>
          rw [hbody, List.append_nil, h.settled]
          exact hbound
        | cons event q =>
          obtain ⟨rfl, hrest⟩ := List.cons.inj hq
          obtain ⟨rfl, -⟩ := List.nil_eq_append_iff.1 hrest
          rw [hsettled]
          exact Nat.le_of_succ_le hbound
      · rw [hbody]
        exact h.bounded p' s' hs'
  case ending =>
    intro p g s hp
    rcases List.cons_eq_append_iff.1 hp with ⟨-, hg⟩ | ⟨p', rfl, hp'⟩
    · cases hg
    rcases List.append_eq_append_iff.1 hp' with ⟨q, -, hq⟩ | ⟨s', rfl, hs'⟩
    · cases q with
      | nil => cases hq
      | cons event q => simp at hq
    · cases s' with
      | nil => cases hs'
      | cons event s' =>
        obtain ⟨rfl, rfl⟩ := List.cons.inj hs'
        obtain ⟨hlimit, hfault, hleft⟩ := h.ending p' g s' rfl
        refine ⟨hlimit, hfault, fun event hevent => ?_⟩
        rcases List.mem_append.1 hevent with hevent | hevent
        · exact hleft event hevent
        · exact ⟨f, List.mem_singleton.1 hevent⟩

end Guarded

/-! ### Runs -/

namespace Machine

variable {M : Machine α} {limit : Nat} {f : Function}

/-- Below the limit a call begins. -/
theorem refusal?_of_lt (hlimit : M.settings.callLimit? = some (.atMost limit))
    (h : M.depth < limit) : M.refusal? f = none := by
  simp [refusal?, hlimit, h]

/-- At the limit a call is refused. -/
theorem refusal?_of_eq (hlimit : M.settings.callLimit? = some (.atMost limit))
    (h : M.depth = limit) :
    M.refusal? f = some (.error (.callDepth M.settings.maxCallDepth.plain f.name)) := by
  simp [refusal?, hlimit, h]

end Machine

open Expr

variable [Scalar α] {host : Bool} {limit : Nat}

mutual

/-- **A run keeps the limit** on open calls, if it starts within it. -/
theorem Runs.guarded {M M' : Machine α} {e : Expr} {r : Except Fault (Quantity α)}
    {t : List (CallEvent α)} (h : Runs host M e r M' t)
    (hlimit : M.settings.callLimit? = some (.atMost limit)) (hdepth : M.depth ≤ limit) :
    Guarded M limit r t := by
  match h with
  | .exhausted _ | .scalar | .name | .unit _ | .unknownUnit _ | .define _ | .defineFails _
  | .badTarget _ _ => exact .nil hdepth
  | .single _ ha =>
    have hoperand := Runs.guarded ha hlimit hdepth
    exact hoperand.fails fun _ h => by rw [h]; rfl
  | .pair _ ha hb =>
    have hfirst := Runs.guarded ha hlimit hdepth
    have hframe := Runs.frame ha
    have hsecond := Runs.guarded hb (hframe.settings ▸ hlimit) (hframe.depth ▸ hdepth)
    exact hfirst.append hframe.depth hframe.settings (hsecond.fails fun _ h => by rw [h]; rfl)
  | .pairFails _ ha | .undecidedFails _ ha | .conditionalFails ha =>
    have hoperand := Runs.guarded ha hlimit hdepth
    exact hoperand
  | .assign hb =>
    have hoperand := Runs.guarded hb hlimit hdepth
    exact hoperand
  | .decided _ ha _ =>
    have hoperand := Runs.guarded ha hlimit hdepth
    exact hoperand.fails fun _ h => by cases h
  | .undecided _ ha _ hb =>
    have hfirst := Runs.guarded ha hlimit hdepth
    have hframe := Runs.frame ha
    have hsecond := Runs.guarded hb (hframe.settings ▸ hlimit) (hframe.depth ▸ hdepth)
    exact hfirst.append hframe.depth hframe.settings (hsecond.fails fun _ h => by rw [h]; rfl)
  | .conditional hc hb =>
    have hfirst := Runs.guarded hc hlimit hdepth
    have hframe := Runs.frame hc
    have hsecond := Runs.guarded hb (hframe.settings ▸ hlimit) (hframe.depth ▸ hdepth)
    exact hfirst.append hframe.depth hframe.settings hsecond
  | .call has _ hcall =>
    have harguments := RunsAll.guarded has hlimit hdepth
    have hframe := RunsAll.frame has
    have hbody := RunsCall.guarded hcall (hframe.settings ▸ hlimit) (hframe.depth ▸ hdepth)
    exact harguments.append hframe.depth hframe.settings hbody
  | .builtin has _ _ =>
    have harguments := RunsAll.guarded has hlimit hdepth
    exact harguments.applied _ _
  | .unknownFunction has _ _ =>
    have harguments := RunsAll.guarded has hlimit hdepth
    exact harguments.fails fun _ h => by cases h
  | .callFails has =>
    have harguments := RunsAll.guarded has hlimit hdepth
    exact harguments.fails fun _ h => by cases h; rfl

theorem RunsAll.guarded {M M' : Machine α} {es : List Expr}
    {r : Except Fault (List (Quantity α))} {t : List (CallEvent α)}
    (h : RunsAll host M es r M' t) (hlimit : M.settings.callLimit? = some (.atMost limit))
    (hdepth : M.depth ≤ limit) : Guarded M limit r t := by
  match h with
  | .nil => exact .nil hdepth
  | .cons ha has =>
    have hfirst := Runs.guarded ha hlimit hdepth
    have hframe := Runs.frame ha
    have hrest := RunsAll.guarded has (hframe.settings ▸ hlimit) (hframe.depth ▸ hdepth)
    exact hfirst.append hframe.depth hframe.settings (hrest.fails fun _ h => by rw [h]; rfl)
  | .consFails ha =>
    have hfirst := Runs.guarded ha hlimit hdepth
    exact hfirst.fails fun _ h => by cases h; rfl

theorem RunsCall.guarded {M M' : Machine α} {f : Function} {xs : List (Quantity α)}
    {r : Except Fault (Quantity α)} {t : List (CallEvent α)} (h : RunsCall host M f xs r M' t)
    (hlimit : M.settings.callLimit? = some (.atMost limit)) (hdepth : M.depth ≤ limit) :
    Guarded M limit r t := by
  match h with
  | .exhausted _ _ => exact .nil hdepth
  | .refused hr =>
    have hat : M.depth = limit := by
      refine Nat.le_antisymm hdepth (Nat.le_of_not_lt fun hlt => ?_)
      cases hr.symm.trans (M.refusal?_of_lt hlimit hlt)
    cases hr.symm.trans (M.refusal?_of_eq hlimit hat)
    exact .refused hat f
  | .entered hr hb =>
    have hlt : M.depth < limit := by
      refine Nat.lt_of_le_of_ne hdepth fun hat => ?_
      cases hr.symm.trans (M.refusal?_of_eq hlimit hat)
    have hbody := Runs.guarded hb hlimit hlt
    exact hbody.entered

end

namespace Machine

variable {M : Machine α}

/-- **A call at the limit** fails with the message that names the function, and changes nothing. -/
theorem runsCall_at_limit (hlimit : M.settings.callLimit? = some (.atMost limit))
    (hdepth : M.depth = limit) {M' : Machine α} {f : Function} {xs : List (Quantity α)}
    {r : Except Fault (Quantity α)} {t : List (CallEvent α)} (h : RunsCall host M f xs r M' t) :
    r = .error (.error (.callDepth M.settings.maxCallDepth.plain f.name)) ∧ M' = M ∧
      t = [.refused f] := by
  have hrefused := M.refusal?_of_eq (f := f) hlimit hdepth
  cases h with
  | exhausted _ hr | entered hr => cases hr.symm.trans hrefused
  | refused hr =>
    cases hr.symm.trans hrefused
    exact ⟨rfl, rfl, rfl⟩

/-- **Evaluation ends within the limit.** Whatever functions a machine has, and whatever they
define and call, an expression has a run in it, and only one: what the evaluation computes. Along
the way no more calls are open than the limit says; a call is refused where just as many are, with
a failure that names the function, and nothing begins after that. -/
theorem resolve_ends (M : Machine α) (hlimit : M.settings.callLimit? = some (.atMost limit))
    (hdepth : M.depth ≤ limit) (e : Expr) :
    ∃ t, Runs false M e (M.resolve none e).1 (M.resolve none e).2 t ∧
      (∀ r M' t', Runs false M e r M' t' →
        r = (M.resolve none e).1 ∧ M' = (M.resolve none e).2 ∧ t' = t) ∧
      Guarded M limit (M.resolve none e).1 t ∧
      ∀ N f xs r N' t', N.settings = M.settings → N.depth = limit →
        RunsCall (α := α) false N f xs r N' t' →
          r = .error (.error (.callDepth M.settings.maxCallDepth.plain f.name)) ∧ N' = N ∧
            t' = [.refused f] := by
  have hends : M.settings.callLimit? ≠ some .unlimited := by simp [hlimit]
  obtain ⟨t, ht⟩ : ∃ t, Runs false M e (M.resolve none e).1 (M.resolve none e).2 t :=
    M.runs_resolve (by simp) (.inr hends) e
  refine ⟨t, ht, fun r M' t' h => h.unique ht, ht.guarded hlimit hdepth, ?_⟩
  intro N f xs r N' t' hsettings hat h
  rw [← hsettings] at hlimit ⊢
  exact runsCall_at_limit hlimit hat h

/-- A function that calls itself within its own argument, with three calls to spend. -/
def spiral : Machine Float :=
  ({ settings := { maxCallDepth := .int 3 } } : Calculator Float).machine.define
    ⟨"f", [.name "x"], .call "f" [.call "f" [.name "x"] "f(x)"] "f(f(x))", "f(f(x))"⟩

theorem spiral_ends :
    (spiral.resolve none (.call "f" [.scalar "1"] "f(1)")).1 =
        .error (.error (.callDepth "3" "f")) ∧
      ∃ t, Runs false spiral (.call "f" [.scalar "1"] "f(1)")
          (spiral.resolve none (.call "f" [.scalar "1"] "f(1)")).1
          (spiral.resolve none (.call "f" [.scalar "1"] "f(1)")).2 t ∧
        Guarded spiral 3 (spiral.resolve none (.call "f" [.scalar "1"] "f(1)")).1 t := by
  have hlimit : spiral.settings.callLimit? = some (.atMost 3) := rfl
  obtain ⟨t, ht, -, hguarded, -⟩ :=
    resolve_ends spiral hlimit (by decide) (.call "f" [.scalar "1"] "f(1)")
  exact ⟨rfl, t, ht, hguarded⟩

end Machine
end QuantityCalculus
