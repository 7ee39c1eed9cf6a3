/-
# What a run may change

A run of an expression leaves the machine as it was but for two things: the current scope has new
values for names that the expression itself assigns, and functions have been entered into their
table. Whatever happens within calls stays there, since the scope of a call is gone when it ends.

**Main statement.** `Machine.resolve_frame`, from `Runs.frame` and its companions for lists and
calls.
-/

import QuantityCalculus.Proofs.Machine.Values
import QuantityCalculus.Proofs.Table

namespace QuantityCalculus

/-- An assignment to the name is written in the expression. -/
def Expr.Assigns (e : Expr) (n : String) : Prop :=
  ∃ b c, Expr.binary .assign (.name n) b c ∈ e.walk

namespace Expr

variable {α : Type} [Scalar α] {e a b : Expr} {n : String}

theorem Assigns.of_subset (h : a.Assigns n) (hs : a.walk ⊆ e.walk) : e.Assigns n := by
  obtain ⟨b, c, hb⟩ := h
  exact ⟨b, c, hs hb⟩

theorem self_mem_walk (e : Expr) : e ∈ e.walk := by
  cases e <;> simp [walk]

theorem walk_single {f : Quantity α → Except CalcError (Quantity α)}
    (h : e.single? = some (a, f)) : a.walk ⊆ e.walk := by
  unfold single? at h
  split at h
  · cases h
  · cases h
    simp [walk]
  · cases h

theorem walk_pair {f : Quantity α → Quantity α → Except CalcError (Quantity α)}
    (h : e.pair? = some (a, b, f)) : a.walk ⊆ e.walk ∧ b.walk ⊆ e.walk := by
  unfold pair? at h
  split at h <;> cases h <;>
    exact ⟨fun n hn => by simp [walk, hn], fun n hn => by simp [walk, hn]⟩

/-- Both sides of a conversion are parts of it. -/
theorem walk_conversion (h : e.conversion? = some (a, b)) : a.walk ⊆ e.walk ∧ b.walk ⊆ e.walk := by
  unfold conversion? at h
  split at h <;> cases h
  exact ⟨fun n hn => by simp [walk, hn], fun n hn => by simp [walk, hn]⟩

theorem walk_subset_walkAll {as : List Expr} (h : a ∈ as) : a.walk ⊆ walkAll as := by
  induction as with
  | nil => cases h
  | cons b bs ih =>
    rw [walkAll]
    rcases List.mem_cons.1 h with rfl | h
    · exact List.subset_append_left ..
    · exact List.Subset.trans (ih h) (List.subset_append_right ..)

theorem exists_of_mem_walkAll {as : List Expr} (h : b ∈ walkAll as) : ∃ a ∈ as, b ∈ a.walk := by
  induction as with
  | nil => cases h
  | cons a as ih =>
    rw [walkAll] at h
    rcases List.mem_append.1 h with h | h
    · exact ⟨a, List.mem_cons_self .., h⟩
    · obtain ⟨a', ha, hb⟩ := ih h
      exact ⟨a', List.mem_cons_of_mem _ ha, hb⟩

end Expr

/-- What is left of a machine when no more than some names of the current scope were bound and
functions entered. -/
structure Machine.Frame {α : Type} (bound : String → Prop) (M M' : Machine α) : Prop where
  /-- other names of the current scope have the values that they had -/
  scope : ∀ n, ¬ bound n → M'.scope.get? n = M.scope.get? n
  /-- no name of the current scope was removed -/
  names : M.scope.keys <+: M'.scope.keys
  /-- no function was removed -/
  functions : M.functions.keys <+: M'.functions.keys
  outer : M'.outer = M.outer
  depth : M'.depth = M.depth
  inputUnits : M'.inputUnits = M.inputUnits
  outputUnits : M'.outputUnits = M.outputUnits
  builtins : M'.builtins = M.builtins
  settings : M'.settings = M.settings
  diagnostics : M'.diagnostics = M.diagnostics

namespace Machine

variable {α : Type} {bound bound' : String → Prop} {M M' M'' : Machine α}

theorem Frame.refl : Frame bound M M where
  scope _ _ := rfl
  names := List.prefix_refl _
  functions := List.prefix_refl _
  outer := rfl
  depth := rfl
  inputUnits := rfl
  outputUnits := rfl
  builtins := rfl
  settings := rfl
  diagnostics := rfl

theorem Frame.trans (h : Frame bound M M') (h' : Frame bound M' M'') : Frame bound M M'' where
  scope n hn := (h'.scope n hn).trans (h.scope n hn)
  names := h.names.trans h'.names
  functions := h.functions.trans h'.functions
  outer := h'.outer.trans h.outer
  depth := h'.depth.trans h.depth
  inputUnits := h'.inputUnits.trans h.inputUnits
  outputUnits := h'.outputUnits.trans h.outputUnits
  builtins := h'.builtins.trans h.builtins
  settings := h'.settings.trans h.settings
  diagnostics := h'.diagnostics.trans h.diagnostics

theorem Frame.mono (h : Frame bound M M') (hb : ∀ n, bound n → bound' n) : Frame bound' M M' :=
  { h with scope := fun n hn => h.scope n fun hn' => hn (hb n hn') }

theorem Frame.assign {n : String} (hn : bound n) (r : Except Fault (Quantity α)) :
    Frame bound M (M.assign n r) := by
  cases r with
  | error fault => exact .refl
  | ok q =>
    exact
      { (Frame.refl : Frame bound M M) with
        scope := fun m hm => by
          have hne : n ≠ m := fun h => hm (h ▸ hn)
          simp [Machine.assign, hne]
        names := Table.keys_isPrefix_insert .. }

theorem Frame.define (f : Function) : Frame bound M (M.define f) :=
  { (Frame.refl : Frame bound M M) with functions := Table.keys_isPrefix_insert .. }

theorem Frame.within {a e : Expr} (h : Frame a.Assigns M M') (hs : a.walk ⊆ e.walk) :
    Frame e.Assigns M M' :=
  h.mono fun _ hn => hn.of_subset hs

/-- What the arguments of a call assign is assigned in the call. -/
theorem Frame.inCall {as : List Expr} {f c : String}
    (h : Frame (fun n => ∃ a ∈ as, a.Assigns n) M M') : Frame (Expr.call f as c).Assigns M M' := by
  refine h.mono ?_
  rintro n ⟨a, ha, hn⟩
  exact hn.of_subset fun b hb => by simp [Expr.walk, Expr.walk_subset_walkAll ha hb]

/-- What is assigned in a call is assigned in its arguments. -/
theorem Frame.ofCall {as : List Expr} {f c : String} (h : Frame (Expr.call f as c).Assigns M M') :
    Frame (fun n => ∃ a ∈ as, a.Assigns n) M M' := by
  refine h.mono ?_
  rintro n ⟨b, d, hb⟩
  rw [Expr.walk, List.mem_cons] at hb
  obtain ⟨a, ha, hb⟩ := Expr.exists_of_mem_walkAll (hb.resolve_left nofun)
  exact ⟨a, ha, b, d, hb⟩

/-- **A call that is closed** has changed nothing but functions, whatever its body assigned. -/
theorem Frame.leave {f : Function} {xs : List (Quantity α)} (h : Frame bound (M.enter f xs) M') :
    Frame (fun _ => False) M M'.leave := by
  have houter : M'.outer = M.scope :: M.outer := h.outer
  have hdepth : M'.depth = M.depth + 1 := h.depth
  have hleave : M'.leave = { M' with scope := M.scope, outer := M.outer, depth := M.depth } := by
    rw [Machine.leave, houter, hdepth]
    rfl
  rw [hleave]
  exact
    { scope := fun _ _ => rfl
      names := List.prefix_refl _
      functions := h.functions
      outer := rfl
      depth := rfl
      inputUnits := h.inputUnits
      outputUnits := h.outputUnits
      builtins := h.builtins
      settings := h.settings
      diagnostics := h.diagnostics }

end Machine

open Expr Machine

variable {α : Type} [Scalar α] {host : Bool}

mutual

/-- **A run changes no more** than the names that are assigned in the expression itself. -/
theorem Runs.frame {M M' : Machine α} {e : Expr} {r : Except Fault (Quantity α)}
    {t : List (CallEvent α)} (h : Runs host M e r M' t) : Frame e.Assigns M M' := by
  match h with
  | .exhausted _ | .scalar | .name | .unit _ | .unknownUnit _ | .defineFails _ | .badTarget _ _ =>
    exact .refl
  | .single hs ha =>
    have hframe := Runs.frame ha
    exact hframe.within (walk_single hs)
  | .pair hs ha hb =>
    have hfirst := Runs.frame ha
    have hsecond := Runs.frame hb
    exact (hfirst.within (walk_pair hs).1).trans (hsecond.within (walk_pair hs).2)
  | .pairFails hs ha =>
    have hframe := Runs.frame ha
    exact hframe.within (walk_pair hs).1
  | .assign (n := n) (b := b) (c := c) hb =>
    have hn : (Expr.binary .assign (.name n) b c).Assigns n := ⟨b, c, self_mem_walk _⟩
    have hframe := Runs.frame hb
    exact (hframe.within fun a ha => by simp [walk, ha]).trans (.assign hn _)
  | .define _ => exact .define _
  | .decided _ ha _ | .undecidedFails _ ha | .conditionalFails ha =>
    have hframe := Runs.frame ha
    exact hframe.within fun a ha => by simp [walk, ha]
  | .undecided _ ha _ hb =>
    have hfirst := Runs.frame ha
    have hsecond := Runs.frame hb
    exact (hfirst.within fun a ha => by simp [walk, ha]).trans
      (hsecond.within fun a ha => by simp [walk, ha])
  | .conditional hc hb =>
    have hfirst := Runs.frame hc
    have hsecond := Runs.frame hb
    refine (hfirst.within fun a ha => by simp [walk, ha]).trans (hsecond.within fun a ha => ?_)
    split at ha <;> simp [walk, ha]
  | .call has _ hf =>
    have harguments := RunsAll.frame has
    have hcall := RunsCall.frame hf
    exact harguments.inCall.trans (hcall.mono fun _ h => h.elim)
  | .builtin has _ _ | .unknownFunction has _ _ | .callFails has =>
    have harguments := RunsAll.frame has
    exact harguments.inCall

theorem RunsAll.frame {M M' : Machine α} {es : List Expr}
    {r : Except Fault (List (Quantity α))} {t : List (CallEvent α)}
    (h : RunsAll host M es r M' t) : Frame (fun n => ∃ a ∈ es, a.Assigns n) M M' := by
  match h with
  | .nil => exact .refl
  | .cons ha has =>
    have hfirst := Runs.frame ha
    have hrest := RunsAll.frame has
    refine (hfirst.mono fun n hn => ⟨_, List.mem_cons_self .., hn⟩).trans (hrest.mono ?_)
    rintro n ⟨a, ha, hn⟩
    exact ⟨a, List.mem_cons_of_mem _ ha, hn⟩
  | .consFails ha =>
    have hfirst := Runs.frame ha
    exact hfirst.mono fun n hn => ⟨_, List.mem_cons_self .., hn⟩

/-- **A call changes nothing but functions.** -/
theorem RunsCall.frame {M M' : Machine α} {f : Function} {xs : List (Quantity α)}
    {r : Except Fault (Quantity α)} {t : List (CallEvent α)} (h : RunsCall host M f xs r M' t) :
    Frame (fun _ => False) M M' := by
  match h with
  | .exhausted _ _ | .refused _ => exact .refl
  | .entered _ hb =>
    have hbody := Runs.frame hb
    exact hbody.leave

end

namespace Machine

/-- **What evaluating may change,** whether it succeeds or fails and wherever the frames of the
host run out. An expression changes the current scope at names that it assigns itself, and
functions; a call changes the caller's scope at names that are assigned in its arguments; and what
the function does leaves all scopes as they were. -/
theorem resolve_frame (M : Machine α) (frames : Nat) :
    (∀ e, (∃ t, Runs true M e (M.resolve (some frames) e).1 (M.resolve (some frames) e).2 t) ∧
      Frame e.Assigns M (M.resolve (some frames) e).2) ∧
    (∀ f arguments content,
      Frame (fun n => ∃ a ∈ arguments, a.Assigns n) M
        (M.resolve (some frames) (.call f arguments content)).2) ∧
    ∀ N f xs r N' t, RunsCall (α := α) true N f xs r N' t → Frame (fun _ => False) N N' := by
  have hruns (e : Expr) :
      ∃ t, Runs true M e (M.resolve (some frames) e).1 (M.resolve (some frames) e).2 t :=
    M.runs_resolve (fun _ => rfl) (.inl rfl) e
  refine ⟨fun e => ⟨hruns e, ?_⟩, fun f arguments content => ?_, fun N f xs r N' t h => h.frame⟩
  · obtain ⟨t, ht⟩ := hruns e
    exact ht.frame
  · obtain ⟨t, ht⟩ := hruns (.call f arguments content)
    exact ht.frame.ofCall

end Machine
end QuantityCalculus
