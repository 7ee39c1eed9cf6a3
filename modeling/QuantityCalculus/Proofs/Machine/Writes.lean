/-
# What a run writes

A run writes to the current scope and to the table of functions, and it writes in order: what it
leaves is what there was, with a log of assignments and a log of definitions carried out on it one
after the other. The assignments are to names that the expression itself assigns. The definitions
are written in the expression, or in the body of a function that was in the table or was entered on
the way, wherever calls have led to. A run that fails has written what it wrote before.

So a property of functions that passes from a function to those that are defined in its body holds
of all functions after a run, if it held of those before and of those that the expression defines.

**Main statements.** `Runs.writes`, with its companions for lists and calls; `Runs.functions`: the
functions after a run; `Calculator.logged_valueOf`: the evaluations of a calculator.
-/

import QuantityCalculus.Proofs.Machine.Frame

namespace QuantityCalculus

/-- The definition of the function is written in the expression. -/
def Expr.Defines (e : Expr) (f : Function) : Prop :=
  ∃ n ps c body c', Expr.binary .assign (.call n ps c) body c' ∈ e.walk ∧
    definition n ps body = .ok f

/-- All functions that the expression defines have a property. -/
def Expr.DefinesOnly (F : Function → Prop) (e : Expr) : Prop := ∀ f, e.Defines f → F f

/-- A definition that evaluating an expression may carry out among some functions: it is written in
the expression, in the body of one of these functions, or in that of one that was defined so. -/
inductive Expr.MayDefine (fs : Functions) (e : Expr) : Function → Prop
  | written {f : Function} : e.Defines f → MayDefine fs e f
  | inBody {k : String × Nat} {g f : Function} :
    fs.get? k = some g → g.body.Defines f → MayDefine fs e f
  | inDefined {g f : Function} : MayDefine fs e g → g.body.Defines f → MayDefine fs e f

/-- All functions of a table have a property. -/
def Functions.All (F : Function → Prop) (fs : Functions) : Prop := ∀ e ∈ fs.toList, F e.2

/-- All functions that are defined in the bodies of a table have a property. -/
abbrev Functions.DefineOnly (F : Function → Prop) (fs : Functions) : Prop :=
  fs.All fun f => f.body.DefinesOnly F

variable {F G : Function → Prop}

theorem Expr.DefinesOnly.of_subset {a e : Expr} (h : e.DefinesOnly F) (hs : a.walk ⊆ e.walk) :
    a.DefinesOnly F := by
  rintro f ⟨n, ps, c, body, c', hmem, hf⟩
  exact h f ⟨n, ps, c, body, c', hs hmem, hf⟩

theorem Expr.DefinesOnly.arguments {f c : String} {as : List Expr}
    (h : (Expr.call f as c).DefinesOnly F) : ∀ a ∈ as, a.DefinesOnly F :=
  fun _ ha => h.of_subset fun _ hb => List.mem_cons_of_mem _ (walk_subset_walkAll ha hb)

namespace Functions

variable {fs : Functions}

theorem All.define (h : fs.All F) {f : Function} (hf : F f) : (fs.define f).All F :=
  Table.forall_insert h hf

theorem All.of_get? (h : fs.All F) {k : String × Nat} {f : Function} (hf : fs.get? k = some f) :
    F f :=
  h _ (Table.get?_eq_some_iff.1 hf)

theorem all_of_get? (h : ∀ k f, fs.get? k = some f → F f) : fs.All F :=
  fun e he => h e.1 e.2 (Table.get?_eq_some_iff.2 he)

end Functions

variable {α : Type}

theorem Machine.functions_leave (M : Machine α) : M.leave.functions = M.functions := by
  unfold leave
  split <;> rfl

/-- What an assignment binds to a name of some kind: a value without a description. -/
def Assignment (A : String → Prop) (b : String × Variable α) : Prop :=
  A b.1 ∧ b.2.description = none

/-- A function of some kind, under its name and number of arguments. -/
def Entry (F : Function → Prop) (b : (String × Nat) × Function) : Prop :=
  F b.2 ∧ b.1 = (b.2.name, b.2.arity)

/-- What is left of a scope and functions when assignments and definitions of some kind were
carried out on them. -/
structure Logged (A : String → Prop) (F : Function → Prop) (scope scope' : Scope α)
    (functions functions' : Functions) : Prop where
  scope : scope.Rebound (Assignment A) scope'
  functions : functions.Rebound (Entry F) functions'

namespace Logged

variable {A B : String → Prop} {s s' s'' : Scope α} {fs fs' fs'' : Functions}

theorem refl : Logged A F s s fs fs := ⟨.refl, .refl⟩

theorem trans (h : Logged A F s s' fs fs') (h' : Logged A F s' s'' fs' fs'') :
    Logged A F s s'' fs fs'' :=
  ⟨h.scope.trans h'.scope, h.functions.trans h'.functions⟩

theorem mono (h : Logged A F s s' fs fs') (hAB : ∀ n, A n → B n) : Logged B F s s' fs fs' :=
  ⟨h.scope.mono fun _ hb => ⟨hAB _ hb.1, hb.2⟩, h.functions⟩

/-- A property of all functions stays if the ones that are entered have it. -/
theorem all (h : Logged A F s s' fs fs') (hFG : ∀ f, F f → G f) (hfs : fs.All G) : fs'.All G :=
  Functions.all_of_get? fun _ _ hf => (h.functions.get?_eq_some hf).elim hfs.of_get?
    fun hf => hFG _ hf.1

end Logged

namespace Machine

variable {A : String → Prop} {M M' : Machine α}

/-- What a run may write: assignments to some names and definitions of some functions. -/
def Writes (A : String → Prop) (F : Function → Prop) (M M' : Machine α) : Prop :=
  Logged A F M.scope M'.scope M.functions M'.functions

theorem Writes.assign {n : String} (hn : A n) (r : Except Fault (Quantity α)) :
    Writes A F M (M.assign n r) := by
  cases r with
  | error fault => exact Logged.refl
  | ok q => exact ⟨.insert ⟨hn, rfl⟩, .refl⟩

theorem Writes.define {f : Function} (hf : F f) : Writes A F M (M.define f) :=
  ⟨.refl, .insert ⟨hf, rfl⟩⟩

/-- **A call that is closed** has written nothing but functions. -/
theorem Writes.leave {f : Function} {xs : List (Quantity α)} (h : Writes A F (M.enter f xs) M')
    (houter : M'.outer = M.scope :: M.outer) : Writes (fun _ => False) F M M'.leave := by
  have hscope : M'.leave.scope = M.scope := by
    rw [Machine.leave, houter]
  constructor
  · rw [hscope]
    exact .refl
  · rw [functions_leave]
    exact h.functions

theorem Writes.within {a e : Expr} (h : Writes a.Assigns F M M') (hs : a.walk ⊆ e.walk) :
    Writes e.Assigns F M M' :=
  h.mono fun _ hn => hn.of_subset hs

/-- What the arguments of a call assign is assigned in the call. -/
theorem Writes.inCall {as : List Expr} {f c : String}
    (h : Writes (fun n => ∃ a ∈ as, a.Assigns n) F M M') :
    Writes (Expr.call f as c).Assigns F M M' := by
  refine h.mono ?_
  rintro n ⟨a, ha, hn⟩
  exact hn.of_subset fun b hb => List.mem_cons_of_mem _ (Expr.walk_subset_walkAll ha hb)

end Machine

open Expr Machine

variable [Scalar α] {host : Bool}

mutual

/-- **A run writes** to names that the expression itself assigns, and enters functions of a kind to
which all belong that are defined in the expression, in a function of the table, or in the body of
a function of this kind. -/
theorem Runs.writes (hF : ∀ f, F f → f.body.DefinesOnly F) {M M' : Machine α} {e : Expr}
    {r : Except Fault (Quantity α)} {t : List (CallEvent α)} (h : Runs host M e r M' t)
    (he : e.DefinesOnly F) (hM : M.functions.DefineOnly F) : Writes e.Assigns F M M' := by
  match h with
  | .exhausted _ | .scalar | .name | .unit _ | .unknownUnit _ | .defineFails _ | .badTarget _ _ =>
    exact .refl
  | .single hs ha =>
    have hwrites := Runs.writes hF ha (he.of_subset (walk_single hs)) hM
    exact hwrites.within (walk_single hs)
  | .pair hs ha hb =>
    have hfirst := Runs.writes hF ha (he.of_subset (walk_pair hs).1) hM
    have hsecond := Runs.writes hF hb (he.of_subset (walk_pair hs).2) (hfirst.all hF hM)
    exact (hfirst.within (walk_pair hs).1).trans (hsecond.within (walk_pair hs).2)
  | .pairFails hs ha =>
    have hwrites := Runs.writes hF ha (he.of_subset (walk_pair hs).1) hM
    exact hwrites.within (walk_pair hs).1
  | .assign (n := n) (b := b) (c := c) hb =>
    have hn : (Expr.binary .assign (.name n) b c).Assigns n := ⟨b, c, self_mem_walk _⟩
    have hvalue := Runs.writes hF hb (he.of_subset fun a ha => by simp [walk, ha]) hM
    exact (hvalue.within fun a ha => by simp [walk, ha]).trans (Writes.assign hn _)
  | .define hf => exact Writes.define (he _ ⟨_, _, _, _, _, self_mem_walk _, hf⟩)
  | .decided _ ha _ | .undecidedFails _ ha | .conditionalFails ha =>
    have hwrites := Runs.writes hF ha (he.of_subset fun a ha => by simp [walk, ha]) hM
    exact hwrites.within fun a ha => by simp [walk, ha]
  | .undecided _ ha _ hb =>
    have hfirst := Runs.writes hF ha (he.of_subset fun a ha => by simp [walk, ha]) hM
    have hsecond := Runs.writes hF hb (he.of_subset fun a ha => by simp [walk, ha])
      (hfirst.all hF hM)
    exact (hfirst.within fun a ha => by simp [walk, ha]).trans
      (hsecond.within fun a ha => by simp [walk, ha])
  | .conditional (a := yes) (b := no) (c := content) (e := condition) (x := x) hc hb =>
    have hbranch : (if x.isTrue then yes else no).walk ⊆
        (Expr.conditional condition yes no content).walk := by
      intro a ha
      split at ha <;> simp [walk, ha]
    have hfirst := Runs.writes hF hc (he.of_subset fun a ha => by simp [walk, ha]) hM
    have hsecond := Runs.writes hF hb (he.of_subset hbranch) (hfirst.all hF hM)
    exact (hfirst.within fun a ha => by simp [walk, ha]).trans (hsecond.within hbranch)
  | .call has hf hcall =>
    have harguments := RunsAll.writes hF has he.arguments hM
    have hfunctions := harguments.all hF hM
    have hbody := RunsCall.writes hF hcall (hfunctions.of_get? hf) hfunctions
    exact harguments.inCall.trans (hbody.mono fun _ h => h.elim)
  | .builtin has _ _ | .unknownFunction has _ _ | .callFails has =>
    have harguments := RunsAll.writes hF has he.arguments hM
    exact harguments.inCall

theorem RunsAll.writes (hF : ∀ f, F f → f.body.DefinesOnly F) {M M' : Machine α}
    {es : List Expr} {r : Except Fault (List (Quantity α))} {t : List (CallEvent α)}
    (h : RunsAll host M es r M' t) (hes : ∀ e ∈ es, e.DefinesOnly F)
    (hM : M.functions.DefineOnly F) : Writes (fun n => ∃ a ∈ es, a.Assigns n) F M M' := by
  match h with
  | .nil => exact .refl
  | .cons ha has =>
    have hfirst := Runs.writes hF ha (hes _ (List.mem_cons_self ..)) hM
    have hrest := RunsAll.writes hF has (fun e he => hes e (List.mem_cons_of_mem _ he))
      (hfirst.all hF hM)
    refine (hfirst.mono fun n hn => ⟨_, List.mem_cons_self .., hn⟩).trans (hrest.mono ?_)
    rintro n ⟨a, ha, hn⟩
    exact ⟨a, List.mem_cons_of_mem _ ha, hn⟩
  | .consFails ha =>
    have hfirst := Runs.writes hF ha (hes _ (List.mem_cons_self ..)) hM
    exact hfirst.mono fun n hn => ⟨_, List.mem_cons_self .., hn⟩

/-- **A call writes** nothing but functions, whatever its body assigns. -/
theorem RunsCall.writes (hF : ∀ f, F f → f.body.DefinesOnly F) {M M' : Machine α}
    {f : Function} {xs : List (Quantity α)} {r : Except Fault (Quantity α)}
    {t : List (CallEvent α)} (h : RunsCall host M f xs r M' t) (hf : f.body.DefinesOnly F)
    (hM : M.functions.DefineOnly F) : Writes (fun _ => False) F M M' := by
  match h with
  | .exhausted _ _ | .refused _ => exact .refl
  | .entered _ hb =>
    have hbody := Runs.writes hF hb hf hM
    exact hbody.leave hb.frame.outer

end

/-- **A run keeps a property of all functions** that passes on to what is defined in a body, if the
functions that the expression defines have it. -/
theorem Runs.functions (hF : ∀ f, F f → f.body.DefinesOnly F) {M M' : Machine α} {e : Expr}
    {r : Except Fault (Quantity α)} {t : List (CallEvent α)} (h : Runs host M e r M' t)
    (he : e.DefinesOnly F) (hM : M.functions.All F) : M'.functions.All F :=
  (h.writes hF he fun entry hentry => hF _ (hM entry hentry)).all (fun _ hf => hf) hM

namespace Calculator

variable {c : Calculator α}

/-- **What evaluating an expression writes** in a calculator: values of names that the expression
assigns, and functions that it may define. -/
theorem logged_valueOf (hroom : c.room.isSome = true) (e : Expr) :
    Logged e.Assigns (e.MayDefine c.functions) c.globals (outcome (valueOf e) c).2.globals
      c.functions (outcome (valueOf e) c).2.functions := by
  obtain ⟨t, ht⟩ := c.exists_runs hroom e
  rw [outcome_valueOf]
  exact ht.writes (fun f hf g hg => .inDefined hf hg) (fun f hf => .written hf)
    (Functions.all_of_get? fun _ _ hg _ hf => .inBody hg hf)

end Calculator
end QuantityCalculus
