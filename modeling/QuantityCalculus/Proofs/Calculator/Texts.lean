/-
# Functions come from texts

Apart from trees that are given by hand and snapshots, functions are defined by texts: their own
or one with a definition in it, perhaps in the body of another function. Each text is read with
the marks and units of the calculator at that time, but for the text of a scalar, which has no
units. So in the course of a history every function has its body from its text as it was read in
one of the states.

**Main statement.** `Told.functions`: the texts of functions, as they were read.
-/

import QuantityCalculus.Proofs.Calculator.Built
import QuantityCalculus.Proofs.Expr.Trimmed
import QuantityCalculus.Proofs.Machine.Writes

namespace QuantityCalculus

open Token

/-! ### Functions -/

/-- Ways to read a text: with some marks, and with some words as units. -/
abbrev Readings := Marks → (String → Bool) → Prop

/-- With these settings and input units texts are read in one of the ways. -/
def Readings.Hold {α : Type} (V : Readings) (settings : Settings)
    (units : Table String (Quantity α)) : Prop :=
  ∀ m, settings.marks = .ok m → V m units.contains

/-- The function has its body from its text, in one of the ways to read it. With a blank as a mark
the text of a part need not stand for the part. -/
def Function.ReadFrom (V : Readings) (f : Function) : Prop :=
  ∃ m isUnit, V m isUnit ∧ (Inked m → Expr.read m isUnit f.bodyText = .ok f.body)

theorem Function.ReadFrom.mono {V V' : Readings} {f : Function} (h : f.ReadFrom V)
    (hV : ∀ m isUnit, V m isUnit → V' m isUnit) : f.ReadFrom V' := by
  obtain ⟨m, isUnit, hm, hread⟩ := h
  exact ⟨m, isUnit, hV m isUnit hm, hread⟩

namespace Expr

/-- What is defined in a text that is read has its body from its own text. -/
theorem definesOnly_of_read {V : Readings} {m : Marks} {isUnit : String → Bool} {text : String}
    {e : Expr} (hV : V m isUnit) (h : Inked m → read m isUnit text = .ok e) :
    e.DefinesOnly (Function.ReadFrom V) := by
  rintro f ⟨n, ps, c, body, c', hmem, hf⟩
  obtain ⟨names, -, hf⟩ := Except.bind_eq_ok_iff.1 hf
  obtain ⟨-, -, hf⟩ := Except.bind_eq_ok_iff.1 hf
  cases hf
  refine ⟨m, isUnit, hV, fun hm => ?_⟩
  have hbody : body ∈ e.walk := walk_subset hmem (by simp [walk, self_mem_walk])
  exact (readWithin_content hm (h hm) hbody).2

theorem definesOnly_body {V : Readings} (f : Function) (h : f.ReadFrom V) :
    f.body.DefinesOnly (Function.ReadFrom V) := by
  obtain ⟨m, isUnit, hV, hread⟩ := h
  exact definesOnly_of_read hV hread

end Expr

namespace Calculator

variable {α : Type} [Scalar α]

/-- All functions have their bodies from their texts, in some ways to read them, and the settings
and input units are some of a kind. -/
structure Drawn (V : Readings) (C : Settings → Table String (Quantity α) → Prop)
    (c : Calculator α) : Prop where
  room : c.room.isSome = true
  functions : c.functions.All (Function.ReadFrom V)
  now : C c.settings c.inputUnits

variable {V : Readings} {C : Settings → Table String (Quantity α) → Prop}

namespace Drawn

theorem valueOf {e : Expr} (he : e.DefinesOnly (Function.ReadFrom V)) :
    Keeps (Drawn V C) (fun _ => True) (valueOf e : Step α (Quantity α)) := by
  intro c hc
  obtain ⟨t, ht⟩ := c.exists_runs hc.room e
  rw [outcome_valueOf]
  have hafter := ht.functions Expr.definesOnly_body he hc.functions
  exact ⟨{ hc with functions := hafter }, fun _ _ => trivial⟩

theorem evaluates :
    Evaluates (Expr.DefinesOnly (Function.ReadFrom V)) (Drawn (α := α) V C) where
  part := Expr.DefinesOnly.of_subset
  valueOf := Drawn.valueOf
  keepAnswer q := keeps_keepAnswer q (fun _ hc => { hc with }) fun _ hc => { hc with }
  failed _ hc := { hc with }

/-- What a unit set registers defines no functions but in the texts of scalars. -/
theorem registers (hV : V .standard fun _ => false) :
    Registers (Drawn (α := α) V fun _ _ => True) where
  variableSet _ _ hc := { hc with }
  constantSet _ _ hc := { hc with }
  inputUnitSet _ _ hc := { hc with now := trivial }
  outputUnitSet _ hc := { hc with }
  recorded _ hc := { hc with }
  quantityOf := evaluates.quantityOf fun hread => Expr.definesOnly_of_read hV fun _ => hread

omit [Scalar α] in
/-- What is read with the units that there are defines functions that have their bodies from
texts. -/
theorem definesOnly_read {c : Calculator α} {text : String} {e : Expr} (hc : Drawn V V.Hold c)
    (h : c.read text = .ok e) : e.DefinesOnly (Function.ReadFrom V) := by
  obtain ⟨m, hm, hread⟩ := read_eq_ok_iff.1 h
  exact Expr.definesOnly_of_read (hc.now m hm) fun _ => hread

omit [Scalar α] in
theorem registerFunction (name parameters : Json) (body : String) :
    Keeps (Drawn V V.Hold) (fun _ => True) (registerFunction name parameters body : Step α _) := by
  refine keeps_registerFunction fun {c s f} hc hf hs => ?_
  obtain ⟨m, hm, hread⟩ := read_eq_ok_iff.1 hf.read
  have hbody : f.ReadFrom V := by
    refine ⟨m, c.isUnit, hc.now m hm, fun hink => ?_⟩
    rw [hf.bodyText]
    exact Expr.read_trimmed hink hread
  exact { hs with functions := hs.functions.define hbody }

end Drawn
end Calculator

/-! ### Histories -/

namespace Operation

variable {α : Type}

/-- An operation that defines functions by texts only, leaves the settings alone and assigns to
words. -/
def FromText : Operation α → Prop
  | resolve _ | registerTree .. | load _ | adjust _ => False
  | assignVariable name _ => Name.Written name
  | _ => True

theorem FromText.within {op : Operation α} (h : op.FromText) : op.Within Name.Written := by
  cases op with
  | resolve _ | adjust _ => exact h.elim
  | assignVariable name value => exact h
  | _ => trivial

end Operation

namespace Calculator

variable {α : Type} [Scalar α] {V : Readings}

/-- **An operation defines functions by texts** as they are read with the units that were there
before it. -/
theorem Drawn.step {c : Calculator α} (hc : Drawn V V.Hold c) (hV : V .standard fun _ => false)
    {op : Operation α} (hop : op.FromText) : Drawn V (fun _ _ => True) (outcome op.step c).2 := by
  have hweak : ∀ c : Calculator α, Drawn V V.Hold c → Drawn V (fun _ _ => True) c :=
    fun _ hc => { hc with now := trivial }
  have hr : Registers (Drawn (α := α) V fun _ _ => True) := Drawn.registers hV
  have hdefinition (text : String) :
      Keeps (Drawn V V.Hold) (fun _ => True) (valueOfDefinition text : Step α _) :=
    Drawn.evaluates.valueOfDefinition Drawn.definesOnly_read text
  cases op with
  | evaluate text =>
    exact hweak _ ((Drawn.evaluates.evaluate Drawn.definesOnly_read text).discard c hc).1
  | registerFunction name parameters body =>
    exact hweak _ ((Drawn.registerFunction name parameters body).discard c hc).1
  | defineInputUnit name text =>
    refine (congrArg _ (snd_outcome_discard _ c)).mpr ?_
    exact (hdefinition text).bind_imp hweak
      (fun _ _ => hr.registerInputUnit name (Keeps.pure trivial)) hc
  | defineOutputUnit display text =>
    refine (congrArg _ (snd_outcome_discard _ c)).mpr ?_
    exact (hdefinition text).bind_imp hweak
      (fun _ _ => hr.registerOutputUnit display (Keeps.pure trivial)) hc
  | setVariable name value description =>
    exact (hr.setVariable name (hr.quantityOf value) description _ (hweak c hc)).1
  | setConstant name value description =>
    exact (hr.setConstant name (hr.quantityOf value) description _ (hweak c hc)).1
  | registerInputUnit name value =>
    exact ((hr.registerInputUnit name (hr.quantityOf value)).discard _ (hweak c hc)).1
  | registerOutputUnit display value =>
    exact ((hr.registerOutputUnit display (hr.quantityOf value)).discard _ (hweak c hc)).1
  | install set => exact (hr.install set _ (hweak c hc)).1
  | removeFunction name arity =>
    exact { hweak c hc with functions := Table.forall_erase hc.functions }
  | clear => exact { hweak c hc with functions := Table.forall_empty }
  | resolve _ | registerTree _ _ _ | load _ | adjust _ => exact hop.elim
  | _ => exact { hweak c hc with }

/-- A calculator and the states that it went through before, the latest first: it was built, and
then operations went by texts. -/
inductive Told : List (Calculator α) → Calculator α → Prop
  | build {settings : Settings} {sets : List String} {name : String} {c : Calculator α} :
    settings.answerVariable = .str name → UnitSet.build settings sets = .ok c → Told [] c
  | step {past : List (Calculator α)} {c : Calculator α} (op : Operation α) :
    op.FromText → Told past c → Told (c :: past) (outcome op.step c).2

theorem Told.after {past : List (Calculator α)} {c c' : Calculator α} {r : Except Fault Unit}
    (op : Operation α) (hop : op.FromText) (h : Told past c) (hc : outcome op.step c = (r, c')) :
    Told (c :: past) c' := by
  have heq : (outcome op.step c).2 = c' := by rw [hc]
  exact heq ▸ Told.step op hop h

theorem Told.built {past : List (Calculator α)} {c : Calculator α} (h : Told past c) :
    c.Built := by
  induction h with
  | build hname hbuild => exact .build hname hbuild
  | step op hop _ ih => exact ih.step op hop.within

/-- The ways in which texts were read in some states: with their marks and units, or the text of a
scalar without units. -/
def readings (states : List (Calculator α)) : Readings := fun m isUnit =>
  (m = .standard ∧ isUnit = fun _ => false) ∨
    ∃ c ∈ states, c.settings.marks = .ok m ∧ isUnit = c.isUnit

/-- **Every function has its body from its text** as it was read in one of the states before. -/
theorem Told.functions {past : List (Calculator α)} {c : Calculator α} (h : Told past c) :
    c.functions.All (Function.ReadFrom (readings past)) := by
  have hscalar (states : List (Calculator α)) : readings states .standard fun _ => false :=
    .inl ⟨rfl, rfl⟩
  induction h with
  | @build settings sets name c _ hbuild =>
    obtain ⟨new, hcreate, rfl⟩ := of_build hbuild
    obtain ⟨-, rfl⟩ := create_eq_ok hcreate
    have hnew : Drawn (readings ([] : List (Calculator α))) (fun _ _ => True)
        (withBuiltins (α := α) { settings }) :=
      { room := rfl, functions := nofun, now := trivial }
    exact (keeps_installAll (Drawn.registers (hscalar [])).install sets _ hnew).1.functions
  | @step past c op hop hc ih =>
    have hmore : ∀ m isUnit, readings past m isUnit → readings (c :: past) m isUnit :=
      fun _ _ h => h.imp_right fun ⟨c₀, hc₀, h⟩ => ⟨c₀, List.mem_cons_of_mem c hc₀, h⟩
    have hdrawn : Drawn (readings (c :: past)) (readings (c :: past)).Hold c :=
      { room := hc.built.named.room
        functions := fun e he => (ih e he).mono hmore
        now := fun m hm => .inr ⟨c, List.mem_cons_self .., hm, rfl⟩ }
    exact (hdrawn.step (hscalar _) hop).functions

end Calculator
end QuantityCalculus
