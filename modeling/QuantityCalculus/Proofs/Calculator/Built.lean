/-
# Calculators that are built

A calculator is built with built-in functions and unit sets, and then it is changed by operations
that leave its settings alone. Texts may be evaluated, and trees that assign to no other names than
a text could. The names of its variables are then the words that were assigned, the valid names
that were set, and the name of the answer variable, which nothing has looked at.

**Main statements.** `Built.of_stable`: what holds of a new calculator and is kept by all changes
holds of a calculator that is built; `Built.named`: the names of its variables.
-/

import QuantityCalculus.Proofs.Calculator.Reachable
import QuantityCalculus.Proofs.Machine.Frame

namespace QuantityCalculus
namespace Calculator

variable {α : Type} [Scalar α]

/-- The calculators that come from a new one with unit sets, whose answer variable is a name, by
operations that leave the settings alone and assign to words. -/
inductive Built : Calculator α → Prop
  | build {settings : Settings} {sets : List String} {name : String} {c : Calculator α} :
    settings.answerVariable = .str name → UnitSet.build settings sets = .ok c → Built c
  | step {c : Calculator α} (op : Operation α) :
    op.Within Name.Written → Built c → Built (outcome op.step c).2

theorem Built.after {c c' : Calculator α} {r : Except Fault Unit} (op : Operation α)
    (hop : op.Within Name.Written) (h : Built c) (hc : outcome op.step c = (r, c')) :
    Built c' := by
  have heq : (outcome op.step c).2 = c' := by rw [hc]
  exact heq ▸ Built.step op hop h

omit [Scalar α] in
theorem create_eq_ok {settings : Settings} {c : Calculator α} (h : create settings = .ok c) :
    settings.check = .ok () ∧ c = { settings } := by
  obtain ⟨⟨⟩, hcheck, h⟩ := Except.bind_eq_ok_iff.1 h
  cases h
  exact ⟨hcheck, rfl⟩

/-- A calculator with unit sets is a new one in which they were installed. -/
theorem of_build {settings : Settings} {sets : List String} {c : Calculator α}
    (h : UnitSet.build settings sets = .ok c) :
    ∃ new : Calculator α, create settings = .ok new ∧
      c = (outcome (UnitSet.installAll sets) new.withBuiltins).2 := by
  obtain ⟨new, hcreate, h⟩ := Except.bind_eq_ok_iff.1 h
  obtain ⟨_, -, h⟩ := Except.bind_eq_ok_iff.1 h
  cases h
  exact ⟨new, Except.mapError_eq_ok_iff.1 hcreate, rfl⟩

/-- What unit sets keep is kept by all of them. -/
theorem keeps_installAll {P : Calculator α → Prop}
    (h : ∀ set : UnitSet, Keeps P (fun _ => True) (set.install : Step α Unit))
    (sets : List String) : Keeps P (fun _ => True) (UnitSet.installAll sets : Step α Unit) := by
  refine Keeps.forM fun n _ => ?_
  split
  · exact h _
  · exact Keeps.throw _

/-- What is built can be reached. -/
theorem Built.reachable {c : Calculator α} (h : c.Built) : c.Reachable := by
  induction h with
  | build _ hbuild =>
    obtain ⟨new, hcreate, rfl⟩ := of_build hbuild
    have hinstall (set : UnitSet) : Keeps Reachable (fun _ => True) (set.install : Step α Unit) :=
      fun _ hc => ⟨Reachable.step (.install set) hc, fun _ _ => trivial⟩
    exact (keeps_installAll hinstall _ _ (Reachable.create hcreate).withBuiltins).1
  | step op _ _ ih => exact ih.step op

/-- **What all changes keep** holds of a calculator that is built, if it holds of a new one. -/
theorem Built.of_stable {P : Calculator α → Prop} (h : Stable Name.Written P)
    (hnew : ∀ settings : Settings, settings.check = .ok () →
      (∃ name, settings.answerVariable = .str name) → P (withBuiltins { settings }))
    {c : Calculator α} (hc : c.Built) : P c := by
  induction hc with
  | @build settings sets name c hname hbuild =>
    obtain ⟨new, hcreate, rfl⟩ := of_build hbuild
    obtain ⟨hcheck, rfl⟩ := create_eq_ok hcreate
    exact (keeps_installAll h.registers.install _ _ (hnew settings hcheck ⟨name, hname⟩)).1
  | step op hop _ ih => exact (Operation.keeps h hop _ ih).1

/-- A calculator that is built has the built-in functions of its kind. -/
theorem Built.builtins {c : Calculator α} (h : c.Built) :
    c.builtins = Builtin.ofKind (Scalar.kind α) :=
  h.of_stable ⟨fun _ hn => hn, fun hchange hc => hchange.builtins.trans hc⟩ fun _ _ _ => rfl

/-! ### Names of variables -/

/-- What holds of the settings and the variables of a calculator that is built. -/
structure Named (c : Calculator α) : Prop where
  room : c.room.isSome = true
  settings : c.settings.check = .ok ()
  answerVariable : ∃ name, c.settings.answerVariable = .str name
  answers : c.answers = []
  globals : ∀ e ∈ c.globals.toList, Name.Written e.1 ∨ c.settings.answerVariable = .str e.1

/-- The value of an expression binds no names but those that the expression assigns. -/
theorem Named.valueOf {c : Calculator α} (hc : c.Named) {e : Expr}
    (he : e.AssignsWithin Name.Written) : (outcome (valueOf e) c).2.Named := by
  rw [outcome_valueOf]
  refine { hc with globals := fun entry hentry => ?_ }
  obtain ⟨t, ht⟩ := c.exists_runs hc.room e
  by_cases hassigned : e.Assigns entry.1
  · exact .inl (he _ hassigned)
  · -- a name that is not assigned has the value that it had before, so it was bound
    have hget := ht.frame.scope entry.1 hassigned
    have hafter := Table.mem_keys_iff.1 (List.mem_map.2 ⟨entry, hentry, rfl⟩)
    rw [Table.contains, hget] at hafter
    obtain ⟨old, hold, heq⟩ := List.mem_map.1 (Table.mem_keys_iff.2 hafter)
    exact heq ▸ hc.globals old hold

omit [Scalar α] in
theorem Named.keepAnswer {c : Calculator α} (hc : c.Named) (q : Quantity α) :
    (outcome (keepAnswer q) c).2.Named := by
  obtain ⟨name, hname⟩ := hc.answerVariable
  unfold Calculator.keepAnswer
  rw [outcome_bind_ok (outcome_get c), hname]
  exact { hc with globals := Table.forall_insert hc.globals (.inr hname) }

/-- **A change keeps the names,** if expressions assign to words. -/
theorem Named.change {c c' : Calculator α} (h : Change Name.Written c c') (hc : c.Named) :
    c'.Named := by
  cases h with
  | evaluated he => exact hc.valueOf he
  | answered q => exact hc.keepAnswer q
  | assigned _ hn => exact { hc with globals := Table.forall_insert hc.globals (.inl hn) }
  | variableSet _ hn =>
    exact { hc with globals := Table.forall_insert hc.globals (.inl (.inl hn)) }
  | variableRemoved _ => exact { hc with globals := Table.forall_erase hc.globals }
  | variablesCleared | cleared => exact { hc with answers := rfl, globals := Table.forall_empty }
  | _ => exact { hc with }

/-- **The variables of a calculator that is built** are called by words, by valid names and by the
name of the answer variable. -/
theorem Built.named {c : Calculator α} (h : c.Built) : c.Named :=
  h.of_stable ⟨fun _ hn => hn, Named.change⟩ fun _ hcheck hname =>
    { room := rfl, settings := hcheck, answerVariable := hname, answers := rfl
      globals := Table.forall_empty }

/-! ### A new calculator -/

/-- A calculator as it is created, with the built-in functions. -/
def fresh : Calculator Float := ({} : Calculator Float).withBuiltins

theorem built_fresh : fresh.Built := by
  have hbuild : UnitSet.build {} [] = .ok fresh := by rfl
  exact .build rfl hbuild

end Calculator
end QuantityCalculus
