/-
# Plain expressions

An expression is plain if nothing is assigned in it and no function of the table is called. Its
value may depend on everything in the machine, but a run of it changes nothing
(`Runs.unchanged`), however it ends.

The frames of the host can run out in any run. A run in which they do not is one that a host
without end would let happen as well: `Runs.settled`.
-/

import QuantityCalculus.Proofs.Machine.Frame

namespace QuantityCalculus

namespace Expr

/-- The node assigns nothing and calls no function of the table. -/
def PlainNode (fs : Functions) : Expr → Prop
  | binary .assign _ _ _ => False
  | call f as _ => fs.get? (f, as.length) = none
  | _ => True

/-- Nothing is assigned in the expression, and no function of the table is called. -/
def Plain (fs : Functions) (e : Expr) : Prop := ∀ n ∈ e.walk, n.PlainNode fs

variable {fs : Functions} {e a b : Expr}

theorem Plain.of_subset (h : e.Plain fs) (hs : a.walk ⊆ e.walk) : a.Plain fs :=
  fun n hn => h n (hs hn)

theorem not_plain_assign {c : String} : ¬ (binary .assign a b c).Plain fs :=
  fun h => h _ (self_mem_walk _)

theorem plain_unary {op : UnaryOp} {c : String} : (unary op a c).Plain fs ↔ a.Plain fs := by
  simp [Plain, walk, PlainNode]

theorem plain_binary {op : BinaryOp} {c : String} :
    (binary op a b c).Plain fs ↔ op ≠ .assign ∧ a.Plain fs ∧ b.Plain fs := by
  have hnode : (binary op a b c).PlainNode fs ↔ op ≠ .assign := by cases op <;> simp [PlainNode]
  rw [Plain, walk, List.forall_mem_cons, List.forall_mem_append, hnode, Plain, Plain]

theorem plain_conditional {c : String} :
    (conditional e a b c).Plain fs ↔ e.Plain fs ∧ a.Plain fs ∧ b.Plain fs := by
  rw [Plain, walk, List.forall_mem_cons, List.forall_mem_append, List.forall_mem_append, Plain,
    Plain, Plain]
  exact and_iff_right trivial

theorem plain_call {f c : String} {as : List Expr} : (call f as c).Plain fs ↔
    fs.get? (f, as.length) = none ∧ ∀ a ∈ as, a.Plain fs := by
  have hall : (∀ n ∈ walkAll as, n.PlainNode fs) ↔ ∀ a ∈ as, a.Plain fs :=
    ⟨fun h a ha n hn => h n (walk_subset_walkAll ha hn), fun h n hn => by
      obtain ⟨a, ha, hn⟩ := exists_of_mem_walkAll hn
      exact h a ha n hn⟩
  rw [Plain, walk, List.forall_mem_cons, hall]
  rfl

theorem Plain.branch {c : String} (h : (conditional e a b c).Plain fs) (first : Bool) :
    (if first then a else b).Plain fs := by
  obtain ⟨-, ha, hb⟩ := plain_conditional.1 h
  cases first
  · exact hb
  · exact ha

end Expr

open Expr

variable {α : Type} [Scalar α] {host : Bool}

/-- Every argument has a value. -/
theorem RunsAll.length_eq {M M' : Machine α} {es : List Expr} {xs : List (Quantity α)}
    {t : List (CallEvent α)} (h : RunsAll host M es (.ok xs) M' t) : xs.length = es.length := by
  induction es generalizing M xs t with
  | nil =>
    cases h
    rfl
  | cons e es ih =>
    generalize hr : (Except.ok xs : Except Fault (List (Quantity α))) = r at h
    cases h with
    | consFails => cases hr
    | cons _ hrest =>
      rename_i rest _ _ _
      cases rest with
      | error fault => cases hr
      | ok ys =>
        cases hr
        rw [List.length_cons, List.length_cons, ih hrest]

/-! ### Plain expressions leave the machine alone -/

mutual

/-- **A run of a plain expression** changes nothing. -/
theorem Runs.unchanged {M M' : Machine α} {e : Expr} {r : Except Fault (Quantity α)}
    {t : List (CallEvent α)} (h : Runs host M e r M' t) (he : e.Plain M.functions) : M' = M := by
  match h with
  | .exhausted _ | .scalar | .name | .unit _ | .unknownUnit _ | .defineFails _ | .badTarget _ _ =>
    rfl
  | .single hs ha => exact ha.unchanged (he.of_subset (walk_single hs))
  | .pair hs ha hb =>
    obtain rfl := ha.unchanged (he.of_subset (walk_pair hs).1)
    exact hb.unchanged (he.of_subset (walk_pair hs).2)
  | .pairFails hs ha => exact ha.unchanged (he.of_subset (walk_pair hs).1)
  | .assign _ | .define _ => exact (not_plain_assign he).elim
  | .decided _ ha _ | .undecidedFails _ ha => exact ha.unchanged (plain_binary.1 he).2.1
  | .undecided _ ha _ hb =>
    obtain rfl := ha.unchanged (plain_binary.1 he).2.1
    exact hb.unchanged (plain_binary.1 he).2.2
  | .conditional hc hb =>
    obtain rfl := hc.unchanged (plain_conditional.1 he).1
    exact hb.unchanged (he.branch _)
  | .conditionalFails hc => exact hc.unchanged (plain_conditional.1 he).1
  | .call has hf _ =>
    obtain rfl := has.unchanged (plain_call.1 he).2
    rw [has.length_eq, (plain_call.1 he).1] at hf
    cases hf
  | .builtin has _ _ | .unknownFunction has _ _ | .callFails has =>
    exact has.unchanged (plain_call.1 he).2

theorem RunsAll.unchanged {M M' : Machine α} {es : List Expr}
    {r : Except Fault (List (Quantity α))} {t : List (CallEvent α)} (h : RunsAll host M es r M' t)
    (hes : ∀ e ∈ es, e.Plain M.functions) : M' = M := by
  match h with
  | .nil => rfl
  | .cons ha has =>
    obtain rfl := ha.unchanged (hes _ (List.mem_cons_self ..))
    exact has.unchanged fun e he => hes e (List.mem_cons_of_mem _ he)
  | .consFails ha => exact ha.unchanged (hes _ (List.mem_cons_self ..))

end

/-! ### Runs that the host lets end -/

mutual

/-- A run that ends otherwise than by exhaustion needs nothing of the host. -/
theorem Runs.settled {M M' : Machine α} {e : Expr} {r : Except Fault (Quantity α)}
    {t : List (CallEvent α)} (h : Runs host M e r M' t) (hr : r ≠ .error .stackExhausted) :
    Runs false M e r M' t := by
  match h with
  | .exhausted _ => exact (hr rfl).elim
  | .scalar => exact .scalar
  | .name => exact .name
  | .unit hu => exact .unit hu
  | .unknownUnit hu => exact .unknownUnit hu
  | .define hd => exact .define hd
  | .defineFails hd => exact .defineFails hd
  | .badTarget hn hc => exact .badTarget hn hc
  | .single hs ha => exact .single hs (ha.settled fun h => hr (by rw [h]; rfl))
  | .pair hs ha hb =>
    exact .pair hs (ha.settled nofun) (hb.settled fun h => hr (by rw [h]; rfl))
  | .pairFails hs ha => exact .pairFails hs (ha.settled hr)
  | .assign hb => exact .assign (hb.settled hr)
  | .decided hop ha hx => exact .decided hop (ha.settled nofun) hx
  | .undecided hop ha hx hb =>
    exact .undecided hop (ha.settled nofun) hx (hb.settled fun h => hr (by rw [h]; rfl))
  | .undecidedFails hop ha => exact .undecidedFails hop (ha.settled hr)
  | .conditional hc hb => exact .conditional (hc.settled nofun) (hb.settled hr)
  | .conditionalFails hc => exact .conditionalFails (hc.settled hr)
  | .call has hf hcall => exact .call (has.settled nofun) hf (hcall.settled hr)
  | .builtin has hf hb => exact .builtin (has.settled nofun) hf hb
  | .unknownFunction has hf hb => exact .unknownFunction (has.settled nofun) hf hb
  | .callFails has => exact .callFails (has.settled fun h => hr (by cases h; rfl))

theorem RunsAll.settled {M M' : Machine α} {es : List Expr}
    {r : Except Fault (List (Quantity α))} {t : List (CallEvent α)} (h : RunsAll host M es r M' t)
    (hr : r ≠ .error .stackExhausted) : RunsAll false M es r M' t := by
  match h with
  | .nil => exact .nil
  | .cons ha has => exact .cons (ha.settled nofun) (has.settled fun h => hr (by rw [h]; rfl))
  | .consFails ha => exact .consFails (ha.settled fun h => hr (by cases h; rfl))

theorem RunsCall.settled {M M' : Machine α} {f : Function} {xs : List (Quantity α)}
    {r : Except Fault (Quantity α)} {t : List (CallEvent α)} (h : RunsCall host M f xs r M' t)
    (hr : r ≠ .error .stackExhausted) : RunsCall false M f xs r M' t := by
  match h with
  | .exhausted _ _ => exact (hr rfl).elim
  | .refused hf => exact .refused hf
  | .entered hf hb => exact .entered hf (hb.settled hr)

end

end QuantityCalculus
