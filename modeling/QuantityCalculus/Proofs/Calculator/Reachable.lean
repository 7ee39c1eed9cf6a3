/-
# Calculators that can be reached

A calculator is created from settings and changed by its operations, in any order and whether
they succeed or fail. Unit sets and snapshots are installed by registrations, so they keep what
these keep. The names of constants, units and functions in a calculator are valid, output units
are under their own dimension with a factor other than zero, and the results that are kept under
no name are under values that are no text: all changes keep it so.

**Main statement.** `Reachable.sound`: every calculator that can be reached is sound.
-/

import QuantityCalculus.Proofs.Calculator.Operations
import QuantityCalculus.Snapshot
import QuantityCalculus.UnitSet

namespace QuantityCalculus

variable {α : Type} [Scalar α]

/-! ### Unit sets and snapshots -/

namespace Calculator

/-- A property of calculators that the registrations of a unit set keep. -/
structure Registers (P : Calculator α → Prop) : Prop extends Accepts P where
  quantityOf : ∀ g : Given, Keeps P (fun _ => True) (quantityOf g : Step α (Quantity α))

variable {bound : String → Prop} {P : Calculator α → Prop}

theorem Stable.registers (h : Stable bound P) : Registers P where
  toAccepts := h.accepts
  quantityOf := h.evaluates.quantityOf h.assigns_read

namespace Registers

open UnitSet

theorem given (h : Registers P) (scalar : String) (units : Units) :
    Keeps P (fun _ => True) (UnitSet.given scalar units : Step α (Quantity α)) :=
  h.quantityOf _

theorem input (h : Registers P) (name scalar : String) (units : Units) :
    Keeps P (fun _ => True) (UnitSet.input name scalar units : Step α Unit) :=
  (h.registerInputUnit name (h.given scalar units)).discard

theorem showAs (h : Registers P) (display units : Units) :
    Keeps P (fun _ => True) (UnitSet.showAs display units : Step α Unit) :=
  (h.registerOutputUnit display (h.given "1" units)).discard

theorem showBase (h : Registers P) (units : Units) :
    Keeps P (fun _ => True) (UnitSet.showBase units : Step α Unit) :=
  h.showAs units units

theorem registerPrefixed (h : Registers P) (name : String) (base : Units)
    (chosen : List String) (factor : String) :
    Keeps P (fun _ => True) (UnitSet.registerPrefixed name base chosen factor : Step α Unit) := by
  refine Keeps.forM fun p _ => ?_
  split
  · exact Keeps.throw _
  · exact (Keeps.untouched _).bind fun text _ => h.input _ text base

theorem registerBoth (h : Registers P) (name : String) (base : Units) (factor : String) :
    Keeps P (fun _ => True) (UnitSet.registerBoth name base factor : Step α Unit) :=
  (h.input name factor base).bind fun _ _ =>
    (h.registerOutputUnit _ (h.given factor base)).discard

theorem registerCustomary (h : Registers P) (name expression : String) :
    Keeps P (fun _ => True) (UnitSet.registerCustomary name expression : Step α (Quantity α)) :=
  (Keeps.untouched _).bind fun _ _ => h.registerInputUnit name (h.given _ _)

theorem commonUnits (h : Registers P) :
    Keeps P (fun _ => True) (UnitSet.commonUnits : Step α Unit) := by
  unfold UnitSet.commonUnits
  repeat' with_reducible refine Keeps.bind (R := fun _ => True) ?_ fun _ _ => ?_
  all_goals first
    | with_reducible exact h.registerPrefixed _ _ _ _
    | with_reducible exact h.showBase _
    | with_reducible exact h.input _ _ _
    | with_reducible exact h.registerBoth _ _ _
    | exact Keeps.forM fun u _ => (h.registerCustomary u.1 u.2).discard

theorem commonConstants (h : Registers P) :
    Keeps P (fun _ => True) (UnitSet.commonConstants : Step α Unit) :=
  (h.setConstant _ (h.quantityOf _) _).bind fun _ _ =>
    (h.setConstant _ (h.quantityOf _) _).bind fun _ _ => h.setConstant _ (h.given _ _) _

theorem electronicsUnits (h : Registers P) :
    Keeps P (fun _ => True) (UnitSet.electronicsUnits : Step α Unit) := by
  unfold UnitSet.electronicsUnits
  repeat' with_reducible refine Keeps.bind (R := fun _ => True) ?_ fun _ _ => ?_
  · refine Keeps.forM fun u _ => ?_
    exact (h.registerPrefixed _ _ _ _).bind fun _ _ => h.showAs _ _
  · exact h.showAs _ _
  · exact h.registerPrefixed _ _ _ _
  · exact h.registerBoth _ _ _
  · exact h.input _ _ _
  · exact Keeps.forM fun p _ => h.registerPrefixed _ _ _ _
  · exact Keeps.forM fun u _ => h.input _ _ _

theorem install (h : Registers P) (set : UnitSet) :
    Keeps P (fun _ => True) (set.install : Step α Unit) := by
  cases set with
  | common => exact h.commonUnits.bind fun _ _ => h.commonConstants
  | electronics =>
    exact h.electronicsUnits.bind fun _ _ =>
      Keeps.forM fun _ _ => h.setConstant _ (h.given _ _) _

end Registers

theorem Binds.loadInputUnit (h : Binds P) (name : String) (raw : Json) :
    Keeps P (fun _ => True) (Snapshot.loadInputUnit name raw : Step α Unit) :=
  (Keeps.untouched _).bind fun _ _ => (h.registerInputUnit name (Keeps.pure trivial)).discard

theorem Binds.loadConstant (h : Binds P) (name : String) (raw : Json) :
    Keeps P (fun _ => True) (Snapshot.loadConstant name raw : Step α Unit) :=
  (Keeps.untouched _).bind fun _ _ => h.setConstant name (Keeps.pure trivial) _

theorem Binds.loadVariable (h : Binds P) (name : String) (raw : Json) :
    Keeps P (fun _ => True) (Snapshot.loadVariable name raw : Step α Unit) :=
  (Keeps.untouched _).bind fun _ _ => h.setVariable name (Keeps.pure trivial) _

theorem Accepts.loadOutputUnit (h : Accepts P) (raw : Json) :
    Keeps P (fun _ => True) (Snapshot.loadOutputUnit raw : Step α Unit) := by
  unfold Snapshot.loadOutputUnit
  split
  · refine (Keeps.untouched _).bind fun _ _ => (Keeps.untouched _).bind fun _ _ => ?_
    refine (Keeps.untouched _).bind fun _ _ => ?_
    exact (h.registerOutputUnit _ (Keeps.pure trivial)).discard
  · exact Keeps.throw _

/-- Loading the parts keeps what loading the functions keeps. -/
theorem Accepts.loadParts (h : Accepts P) {body : List (String × Json)}
    (hfunctions : ∀ items, Snapshot.listPart body "user_functions" = .ok items →
      ∀ raw ∈ items, Keeps P (fun _ => True) (Snapshot.loadFunction raw : Step α Unit)) :
    Keeps P (fun _ => True) (Snapshot.loadParts body : Step α Unit) := by
  refine (Keeps.untouched _).bind fun _ _ => ?_
  refine (Keeps.forM fun e _ => h.loadInputUnit e.1 e.2).bind fun _ _ => ?_
  refine (Keeps.untouched _).bind fun _ _ => ?_
  refine (Keeps.forM fun raw _ => h.loadOutputUnit raw).bind fun _ _ => ?_
  refine (Keeps.untouched _).bind fun _ _ => ?_
  refine (Keeps.forM fun e _ => h.loadConstant e.1 e.2).bind fun _ _ => ?_
  refine (Keeps.untouched _).bind fun _ _ => ?_
  refine (Keeps.forM fun e _ => h.loadVariable e.1 e.2).bind fun _ _ => ?_
  refine (Keeps.lift _).bind fun items hitems => ?_
  have hitems : Snapshot.listPart body "user_functions" = .ok items :=
    Except.mapError_eq_ok_iff.1 (Except.mapError_eq_ok_iff.1 hitems)
  exact Keeps.forM (hfunctions items hitems)

namespace Stable

open Snapshot

theorem loadFunction (h : Stable bound P) (raw : Json) :
    Keeps P (fun _ => True) (Snapshot.loadFunction raw : Step α Unit) := by
  unfold Snapshot.loadFunction
  split
  · exact (h.registerFunction _ _ _).discard
  · exact Keeps.throw _

theorem loadBody (h : Stable bound P) (body : List (String × Json)) :
    Keeps P (fun _ => True) (Snapshot.loadBody body : Step α Unit) :=
  Keeps.tryCatch (h.accepts.loadParts fun _ _ raw _ => h.loadFunction raw) fun _ => Keeps.throw _

theorem loadInto (h : Stable bound P) (data : Json) :
    Keeps P (fun _ => True) (Snapshot.loadInto data : Step α Unit) := by
  refine (Keeps.untouched _).bind fun header _ => ?_
  split
  · exact h.loadBody header.body
  · exact Keeps.throw_bind _ _

end Stable
end Calculator

/-! ### Operations -/

/-- The operations that change what a calculator holds. -/
inductive Operation (α : Type) where
  | evaluate (text : String)
  | resolve (e : Expr)
  | setVariable (name : String) (value : Given) (description : Option String)
  /-- binds a variable as an assignment does, under whatever name -/
  | assignVariable (name : String) (value : Quantity α)
  | removeVariable (name : String)
  | clearVariables
  | setConstant (name : String) (value : Given) (description : Option String)
  | removeConstant (name : String)
  | registerInputUnit (name : String) (value : Given)
  | defineInputUnit (name text : String)
  | removeInputUnit (name : String)
  | registerOutputUnit (display : Units) (value : Given)
  | defineOutputUnit (display : Units) (text : String)
  | removeOutputUnit (base : Units)
  | registerFunction (name parameters : Json) (body : String)
  /-- registers a function whose body is there as a tree -/
  | registerTree (name parameters : Json) (body : Expr)
  | removeFunction (name : String) (arity : Nat)
  | install (set : UnitSet)
  | load (data : Json)
  /-- gives the settings other values -/
  | adjust (settings : Settings)
  | clear

namespace Operation

open Calculator

/-- An operation as a step, without what it returns. -/
def step : Operation α → Step α Unit
  | evaluate text => discard <| Calculator.evaluate text
  | resolve e => discard <| Calculator.resolve e
  | setVariable name value description =>
    Calculator.setVariable name (quantityOf value) description
  | assignVariable name value =>
    modify fun c => { c with globals := c.globals.insert name ⟨value, none⟩ }
  | removeVariable name => discard <| Calculator.removeVariable name
  | clearVariables => Calculator.clearVariables
  | setConstant name value description =>
    Calculator.setConstant name (quantityOf value) description
  | removeConstant name => discard <| Calculator.removeConstant name
  | registerInputUnit name value =>
    discard <| Calculator.registerInputUnit name (quantityOf value)
  | defineInputUnit name text => discard <| Calculator.defineInputUnit name text
  | removeInputUnit name => discard <| Calculator.removeInputUnit name
  | registerOutputUnit display value =>
    discard <| Calculator.registerOutputUnit display (quantityOf value)
  | defineOutputUnit display text => discard <| Calculator.defineOutputUnit display text
  | removeOutputUnit base => discard <| Calculator.removeOutputUnit base
  | registerFunction name parameters body =>
    discard <| Calculator.registerFunction name parameters body
  | registerTree name parameters body => do
    let name ← nameOf name .function
    let parameters ← parametersOf parameters
    Function.check name parameters
    let f : Function := ⟨name, parameters, body, body.content⟩
    modify fun c => { c with functions := c.functions.define f }
  | removeFunction name arity => discard <| Calculator.removeFunction name arity
  | install set => set.install
  | load data => Snapshot.loadInto data
  | adjust settings => modify fun c => { c with settings }
  | clear => modify Calculator.clear

/-- An operation that leaves the settings alone and assigns within some names. -/
def Within (bound : String → Prop) : Operation α → Prop
  | resolve e => e.AssignsWithin bound
  | assignVariable name _ => bound name
  | adjust _ => False
  | _ => True

omit [Scalar α] in
/-- Only settings that are adjusted make a difference where any name may be assigned. -/
theorem within_or_adjust (op : Operation α) :
    op.Within (fun _ => True) ∨ ∃ settings, op = .adjust settings := by
  cases op with
  | adjust settings => exact .inr ⟨settings, rfl⟩
  | resolve _ => exact .inl fun _ _ => trivial
  | _ => exact .inl trivial

/-- **An operation keeps what all changes keep.** -/
theorem keeps {bound : String → Prop} {P : Calculator α → Prop} (h : Stable bound P)
    {op : Operation α} (hop : op.Within bound) : Keeps P (fun _ => True) op.step := by
  have ha := h.registers
  have he := h.evaluates
  have hdefinition := he.valueOfDefinition fun _ hread => h.assigns_of_read hread
  cases op with
  | evaluate text => exact (he.evaluate (fun _ hread => h.assigns_of_read hread) text).discard
  | resolve e => exact (he.resolve hop).discard
  | setVariable name value description =>
    exact ha.setVariable name (ha.quantityOf value) description
  | assignVariable name value => exact Keeps.modify fun _ hc => h.change (.assigned value hop) hc
  | removeVariable name => exact (h.removeVariable name).discard
  | clearVariables => exact h.clearVariables
  | setConstant name value description =>
    exact ha.setConstant name (ha.quantityOf value) description
  | removeConstant name => exact (h.removeConstant name).discard
  | registerInputUnit name value =>
    exact (ha.registerInputUnit name (ha.quantityOf value)).discard
  | defineInputUnit name text =>
    exact ((hdefinition text).bind fun _ _ =>
      ha.registerInputUnit name (Keeps.pure trivial)).discard
  | removeInputUnit name => exact (h.removeInputUnit name).discard
  | registerOutputUnit display value =>
    exact (ha.registerOutputUnit display (ha.quantityOf value)).discard
  | defineOutputUnit display text =>
    exact ((hdefinition text).bind fun _ _ =>
      ha.registerOutputUnit display (Keeps.pure trivial)).discard
  | removeOutputUnit base => exact (h.removeOutputUnit base).discard
  | registerFunction name parameters body =>
    exact (h.registerFunction name parameters body).discard
  | registerTree name parameters body =>
    refine (Keeps.untouched _).bind fun n _ => (Keeps.lift _).bind fun ps hps => ?_
    refine (Keeps.lift _).bind fun _ hcheck => Keeps.modify fun c hc => ?_
    have hf : Function.Sound ⟨n, ps, body, body.content⟩ :=
      { check := Except.mapError_eq_ok_iff.1 (Except.mapError_eq_ok_iff.1 hcheck)
        parameters := parameterOf_of_parametersOf hps
        bodyText := .inr rfl }
    exact h.change (.functionSet hf) hc
  | removeFunction name arity => exact (h.removeFunction name arity).discard
  | install set => exact ha.install set
  | load data => exact h.loadInto data
  | adjust settings => exact hop.elim
  | clear => exact Keeps.modify fun _ hc => h.change .cleared hc

end Operation

/-! ### Soundness -/

namespace Calculator

/-- What holds of a calculator at all times. -/
structure Sound (c : Calculator α) : Prop where
  constants : ∀ e ∈ c.constants.toList, Name.check e.1 .constant = .ok ()
  answers : ∀ e ∈ c.answers, ∀ name, e.1 ≠ .str name
  inputUnits : ∀ e ∈ c.inputUnits.toList, Name.check e.1 .unit = .ok ()
  outputUnits : ∀ e ∈ c.outputUnits.toList, e.2.Sound e.1
  functions : c.functions.Sound

omit [Scalar α] in
theorem mem_bindAnswer {name : Json} {v : Variable α} {answers : List (Json × Variable α)}
    {e : Json × Variable α} (h : e ∈ bindAnswer name v answers) :
    e.1 = name ∨ ∃ d ∈ answers, e.1 = d.1 := by
  induction answers with
  | nil => exact .inl (congrArg Prod.fst (List.mem_singleton.1 h))
  | cons d rest ih =>
    obtain ⟨n, w⟩ := d
    unfold bindAnswer at h
    split at h
    · rcases List.mem_cons.1 h with rfl | h
      · exact .inr ⟨(n, w), List.mem_cons_self .., rfl⟩
      · exact .inr ⟨e, List.mem_cons_of_mem _ h, rfl⟩
    · rcases List.mem_cons.1 h with rfl | h
      · exact .inr ⟨(n, w), List.mem_cons_self .., rfl⟩
      · rcases ih h with h | ⟨d, hd, h⟩
        · exact .inl h
        · exact .inr ⟨d, List.mem_cons_of_mem _ hd, h⟩

theorem Sound.keepAnswer {c : Calculator α} (hc : c.Sound) (q : Quantity α) :
    (outcome (keepAnswer q) c).2.Sound := by
  unfold Calculator.keepAnswer
  rw [outcome_bind_ok (outcome_get c)]
  split
  · exact { hc with }
  · exact hc
  · exact hc
  · rename_i name hstr _ _
    refine { hc with answers := fun e he s => ?_ }
    rcases mem_bindAnswer he with h | ⟨d, hd, h⟩
    · rw [h]
      exact hstr s
    · rw [h]
      exact hc.answers d hd s

/-- **A change keeps a calculator sound,** whatever expressions assign. -/
theorem Sound.change {bound : String → Prop} {c c' : Calculator α} (h : Change bound c c')
    (hc : c.Sound) : c'.Sound := by
  cases h with
  | @evaluated e _ =>
    let start : Store α := ⟨c.globals, c.functions⟩
    have hafter := (Expr.keeps_evaluate c.context c.room e start hc.functions).1
    exact { hc with functions := hafter }
  | answered q => exact hc.keepAnswer q
  | assigned _ _ | variableSet _ _ | variableRemoved _ | failed _ | recorded _ => exact { hc with }
  | variablesCleared => exact { hc with answers := fun _ he => by cases he }
  | constantSet _ hn => exact { hc with constants := Table.forall_insert hc.constants hn }
  | inputUnitSet _ hn => exact { hc with inputUnits := Table.forall_insert hc.inputUnits hn }
  | outputUnitSet hu => exact { hc with outputUnits := Table.forall_insert hc.outputUnits hu }
  | functionSet hf => exact { hc with functions := hc.functions.define hf }
  | constantRemoved _ => exact { hc with constants := Table.forall_erase hc.constants }
  | inputUnitRemoved _ => exact { hc with inputUnits := Table.forall_erase hc.inputUnits }
  | outputUnitRemoved _ => exact { hc with outputUnits := Table.forall_erase hc.outputUnits }
  | functionRemoved _ => exact { hc with functions := Table.forall_erase hc.functions }
  | cleared =>
    exact
      { constants := Table.forall_empty
        answers := fun _ he => by cases he
        inputUnits := Table.forall_empty
        outputUnits := Table.forall_empty
        functions := Table.forall_empty }

theorem Sound.stable {bound : String → Prop} (h : ∀ n, Name.Written n → bound n) :
    Stable bound (Calculator.Sound (α := α)) :=
  ⟨h, Sound.change⟩

/-- The calculators that come from a new one by operations, with built-in functions or not. -/
inductive Reachable : Calculator α → Prop
  | create {settings : Settings} {c : Calculator α} :
    Calculator.create settings = .ok c → Reachable c
  | withBuiltins {c : Calculator α} : Reachable c → Reachable c.withBuiltins
  | step {c : Calculator α} (op : Operation α) :
    Reachable c → Reachable (outcome op.step c).2

/-- **Every calculator that can be reached is sound.** -/
theorem Reachable.sound {c : Calculator α} (h : Reachable c) : c.Sound := by
  induction h with
  | create h =>
    obtain ⟨_, -, h⟩ := Except.bind_eq_ok_iff.1 h
    cases h
    exact
      { constants := Table.forall_empty
        answers := fun _ he => by cases he
        inputUnits := Table.forall_empty
        outputUnits := Table.forall_empty
        functions := Table.forall_empty }
  | withBuiltins _ ih => exact { ih with }
  | step op _ ih =>
    rcases op.within_or_adjust with hop | ⟨settings, rfl⟩
    · exact (Operation.keeps (Sound.stable fun _ _ => trivial) hop _ ih).1
    · exact { ih with }

/-- Every calculator that can be reached has the room of a new one. -/
theorem Reachable.room_eq {c : Calculator α} (h : Reachable c) : c.room = some 850 := by
  induction h with
  | create h =>
    obtain ⟨_, -, h⟩ := Except.bind_eq_ok_iff.1 h
    cases h
    rfl
  | withBuiltins _ ih => exact ih
  | step op _ ih =>
    have hstable : Stable (fun _ => True) fun c : Calculator α => c.room = some 850 :=
      ⟨fun _ _ => trivial, fun hchange hc => hchange.room ▸ hc⟩
    rcases op.within_or_adjust with hop | ⟨settings, rfl⟩
    · exact (Operation.keeps hstable hop _ ih).1
    · exact ih

/-- In every calculator that can be reached the frames of the host are counted. -/
theorem Reachable.room {c : Calculator α} (h : Reachable c) : c.room.isSome = true := by
  rw [h.room_eq]
  rfl

end Calculator
end QuantityCalculus
