/-
# Steps that blame no number

A calculator reads texts with its own decimal mark, and the texts of given scalars with the point.
Numbers that are read in one of these ways have values under its mark. So a step of a calculator
whose functions were read like that before leaves a calculator of the same sort, and it fails with
other messages than the one that says that a number has no value.

**Main statements.** `spares_valueOf`, `spares_evaluate` and their companions, one for each step;
`UnitSet.spares_install` and `Snapshot.spares_loadInto`, for what is installed and loaded.
-/

import QuantityCalculus.Proofs.Machine.Numbers
import QuantityCalculus.Proofs.Snapshot.Faults

namespace QuantityCalculus

open QuantityCalculus.Except (FailsOnly)
open Number (IsMark)

variable {mark : Char}

/-- What the settings read with has their decimal mark. -/
theorem Settings.HasDecimal.decimal {s : Settings} (h : s.HasDecimal mark) {m : Marks}
    (hm : s.marks = .ok m) : m.decimal = some mark := by
  obtain ⟨_, -, hm⟩ := Except.bind_eq_ok_iff.1 hm
  obtain ⟨-, hm⟩ := Except.guard_eq_ok hm
  obtain ⟨_, -, hm⟩ := Except.bind_eq_ok_iff.1 hm
  obtain ⟨-, hm⟩ := Except.guard_eq_ok hm
  obtain ⟨-, hm⟩ := Except.guard_eq_ok hm
  cases hm
  rw [h]
  simp [mark?]

/-- The message of a failed outcome does not say that a number has no value. -/
def Outcome.Spares {α : Type} : Outcome α → Prop
  | success .. => True
  | failure message => ¬ BlamesNumber message

namespace Calculator

variable {α : Type}

/-- The numbers in all functions have values under the decimal mark, and no message that is
remembered says otherwise. -/
structure Legible (mark : Char) (c : Calculator α) : Prop where
  room : c.room.isSome = true
  decimal : c.settings.HasDecimal mark
  functions : c.functions.All (Function.Legible mark)
  diagnostics : ∀ message ∈ c.diagnostics, ¬ BlamesNumber message

/-- A step that keeps a calculator legible and does not blame a number. -/
abbrev Spares {β : Type} (mark : Char) (step : Step α β) : Prop :=
  Safely (Legible mark) Fault.Spares (fun _ => True) step

/-! ### Texts -/

/-- **What a calculator reads** is legible. -/
theorem Legible.legible_of_read (hmark : IsMark mark) {c : Calculator α} (hc : c.Legible mark)
    {text : String} {e : Expr} (h : c.read text = .ok e) : e.Legible mark := by
  obtain ⟨m, hm, hread⟩ := read_eq_ok_iff.1 h
  exact Expr.legible_of_read hmark (.inl (hc.decimal.decimal hm)) hread

theorem failsOnly_text {β : Type} (x : Except SyntaxError β) :
    FailsOnly Fault.Spares (x.mapError fun e => Fault.error (.text e)) := by
  refine .mapError_of_forall ?_ x
  exact SyntaxError.spares

theorem failsOnly_read (c : Calculator α) (text : String) :
    FailsOnly Fault.Spares (c.read text) := by
  have htrouble (trouble : SettingTrouble) : trouble.toFault.Spares := by
    cases trouble <;> trivial
  have hmarks : FailsOnly Fault.Spares (c.settings.marks.mapError SettingTrouble.toFault) :=
    .mapError_of_forall htrouble _
  exact hmarks.bind fun _ => failsOnly_text _

/-! ### Evaluations -/

variable [Scalar α] [Scalar.Sparing α]

theorem spares_valueOf {e : Expr} (he : e.Legible mark) :
    Spares mark (valueOf e : Step α (Quantity α)) := by
  constructor
  · intro c hc
    obtain ⟨t, ht⟩ := c.exists_runs hc.room e
    rw [outcome_valueOf]
    exact ⟨{ hc with functions := ht.legible he hc.functions }, fun _ _ => trivial⟩
  · intro c hc fault h
    obtain ⟨t, ht⟩ := c.exists_runs hc.room e
    rw [outcome_valueOf] at h
    exact ht.spares hc.decimal he hc.functions fault h

theorem spares_valueOfText (hmark : IsMark mark) (text : String) :
    Spares mark (valueOfText text : Step α α) := by
  refine (Safely.lift (failsOnly_text _)).bind fun e he => ?_
  have hread : Expr.read .standard (fun _ => false) text = .ok e := Except.mapError_eq_ok_iff.1 he
  refine (spares_valueOf (Expr.legible_of_read hmark (.inr rfl) hread)).bind fun q _ => ?_
  have hunits : (Fault.error (.units (.scalarText text))).Spares := Mismatch.spares nofun
  split
  · exact Safely.pure trivial
  · exact Safely.throw_bind hunits _

theorem spares_quantityOf (hmark : IsMark mark) (g : Given) :
    Spares mark (quantityOf g : Step α (Quantity α)) := by
  have hscalar : Spares mark (scalarOf g.scalar : Step α α) := by
    unfold scalarOf
    split
    · split
      · exact Safely.pure trivial
      · exact Safely.throw trivial
    · exact Safely.pure trivial
    · exact Safely.untouched (failsOnly_error (failsOnly_invalid (Scalar.Sparing.ofComplex _)))
    · exact spares_valueOfText hmark _
  exact hscalar.bind fun _ _ => Safely.pure trivial

theorem spares_valueOfDefinition (hmark : IsMark mark) (text : String) :
    Spares mark (valueOfDefinition text : Step α (Quantity α)) :=
  Safely.get.bind fun c hc => (Safely.lift (failsOnly_read c text)).bind fun _ hread =>
    spares_valueOf (hc.legible_of_read hmark hread)

/-! ### Registrations -/

omit [Scalar α] [Scalar.Sparing α]

theorem spares_checkName (name : String) (role : NameRole) :
    Spares mark (checkName name role : Step α Unit) :=
  Safely.untouched (failsOnly_error (failsOnly_invalid (Name.failsOnly_check name role)))

theorem Spares.setVariable {value : Step α (Quantity α)} (hv : Spares mark value) (name : String)
    (description : Option String) : Spares mark (setVariable name value description) :=
  (spares_checkName name .variable).bind fun _ _ => hv.bind fun _ _ =>
    Safely.modify fun _ hc => { hc with }

theorem Spares.setConstant {value : Step α (Quantity α)} (hv : Spares mark value) (name : String)
    (description : Option String) : Spares mark (setConstant name value description) :=
  (spares_checkName name .constant).bind fun _ _ => hv.bind fun _ _ =>
    Safely.modify fun _ hc => { hc with }

theorem Spares.registerInputUnit {value : Step α (Quantity α)} (hv : Spares mark value)
    (name : String) : Spares mark (registerInputUnit name value) := by
  refine (spares_checkName name .unit).bind fun _ _ => hv.bind fun _ _ => ?_
  refine (Safely.modify fun c hc => ?_).bind fun _ _ => Safely.pure trivial
  dsimp only
  split <;> exact { hc with }

theorem Spares.registerOutputUnit [Scalar α] {value : Step α (Quantity α)}
    (hv : Spares mark value) (display : Units) :
    Spares mark (registerOutputUnit display value) := by
  have hdimension : (Fault.error (.invalid .outputDimension)).Spares := Invalid.spares nofun
  have hzero : (Fault.error (.invalid .outputZero)).Spares := Invalid.spares nofun
  refine hv.bind fun q _ => ?_
  dsimp only
  split
  · exact Safely.throw_bind hdimension _
  split
  · exact Safely.throw_bind hzero _
  refine (Safely.modify fun c hc => ?_).bind fun _ _ => Safely.pure trivial
  split
  · split <;> exact { hc with }
  · exact { hc with }

theorem failsOnly_parametersOf (raw : Json) : FailsOnly Fault.Spares (parametersOf raw) := by
  intro fault h
  obtain ⟨why, rfl, -⟩ := Snapshot.fault_parametersOf h
  trivial

theorem failsOnly_nameOf (name : Json) (role : NameRole) :
    FailsOnly Invalid.Spares (nameOf name role) := by
  unfold nameOf
  split
  · exact (Name.failsOnly_check _ role).bind fun _ => .ok _
  · exact .error (Invalid.spares nofun)

theorem spares_registerFunction (hmark : IsMark mark) (name parameters : Json) (body : String) :
    Spares mark (registerFunction name parameters body : Step α Function) := by
  refine (Safely.lift (failsOnly_error (failsOnly_invalid (failsOnly_nameOf _ _)))).bind
    fun n _ => ?_
  refine (Safely.lift (failsOnly_parametersOf parameters)).bind fun ps _ => ?_
  refine (Safely.lift (failsOnly_error (failsOnly_invalid (Function.failsOnly_check n ps)))).bind
    fun _ _ => Safely.get.bind fun c hc => ?_
  refine (Safely.lift (failsOnly_read c body)).bind fun e hread => ?_
  have hbody : e.Legible mark := hc.legible_of_read hmark hread
  refine (Safely.modify fun s hs => ?_).bind fun _ _ => Safely.pure trivial
  exact { hs with functions := hs.functions.define hbody }

/-! ### Outcomes -/

/-- A failure with another message is remembered, and it is the outcome. -/
theorem spares_fail {message : String} (h : ¬ BlamesNumber message) :
    Safely (Legible mark) Fault.Spares Outcome.Spares (fail message : Step α (Outcome α)) := by
  refine (Safely.modify fun c hc => ?_).bind fun _ _ => Safely.pure h
  refine { hc with diagnostics := fun m hm => ?_ }
  rcases List.mem_append.1 (List.mem_of_mem_drop hm) with hm | hm
  · exact hc.diagnostics m hm
  · exact List.mem_singleton.1 hm ▸ h

theorem spares_keepAnswer (q : Quantity α) : Spares mark (keepAnswer q : Step α Unit) := by
  refine Safely.get.bind fun c hc => ?_
  split
  · exact Safely.set { hc with }
  · exact Safely.throw trivial
  · exact Safely.throw trivial
  · exact Safely.set { hc with }

variable [Scalar α] [Scalar.Sparing α]

theorem spares_convert {value target : Expr} (hv : value.Legible mark)
    (ht : target.Legible mark) :
    Safely (Legible mark) Fault.Spares Outcome.Spares
      (convert value target : Step α (Outcome α)) := by
  refine (spares_valueOf hv).bind fun x _ => (spares_valueOf ht).bind fun y _ => ?_
  have hbase : (CalcError.units .base).Spares := Mismatch.spares nofun
  exact (Safely.lift (failsOnly_error (Quantity.failsOnly_ratio hbase x y))).bind fun _ _ =>
    Safely.pure trivial

theorem failsOnly_inOutputUnit (c : Calculator α) (q : Quantity α) :
    FailsOnly Invalid.Spares (c.inOutputUnit? q) := by
  unfold inOutputUnit?
  split
  · exact .ok _
  · split
    · exact .ok _
    · exact (Scalar.Sparing.div _ _).bind fun _ => .ok _

theorem spares_result {e : Expr} (he : e.Legible mark) :
    Safely (Legible mark) Fault.Spares Outcome.Spares (result e : Step α (Outcome α)) := by
  refine (spares_valueOf he).bind fun base _ => Safely.get.bind fun c _ => ?_
  split
  · have hshown := failsOnly_error (failsOnly_invalid (failsOnly_inOutputUnit c base))
    exact (Safely.lift hshown).bind fun _ _ => Safely.pure trivial
  · exact Safely.pure trivial

/-- **The outcome of a legible expression** blames no number. -/
theorem spares_resolve {e : Expr} (he : e.Legible mark) :
    Safely (Legible mark) Fault.Spares Outcome.Spares (resolve e : Step α (Outcome α)) := by
  refine Safely.tryCatch (F := Fault.Spares) ?_ fun fault hfault => ?_
  · split
    · rename_i value target _ hconversion
      obtain ⟨hv, ht⟩ := Expr.walk_conversion hconversion
      exact spares_convert (he.of_subset hv) (he.of_subset ht)
    · exact spares_result he
  · split
    · exact spares_fail hfault
    · exact spares_fail (SyntaxError.spares .tooDeep)
    · exact Safely.throw hfault

/-- **The outcome of a text** blames no number. -/
theorem spares_evaluate (hmark : IsMark mark) (text : String) :
    Safely (Legible mark) Fault.Spares Outcome.Spares
      (evaluate text : Step α (Outcome α)) := by
  refine Safely.get.bind fun c hc => ?_
  split
  · exact spares_fail (SyntaxError.spares _)
  · rename_i hread
    exact Safely.throw (failsOnly_read c text _ hread)
  · rename_i e hread
    refine (spares_resolve (hc.legible_of_read hmark hread)).bind fun o ho => ?_
    split
    · exact Safely.pure ho
    · refine Safely.get.bind fun c _ => ?_
      split
      · exact (spares_keepAnswer _).bind fun _ _ => Safely.pure ho
      · exact Safely.pure ho

end Calculator

/-! ### Unit sets -/

namespace UnitSet

open Calculator

variable {α : Type} [Scalar α] [Scalar.Sparing α]

theorem failsOnly_scaled (multiple factor : String) :
    FailsOnly Fault.Spares (scaled multiple factor) := by
  unfold scaled
  repeat' split
  · exact .ok _
  all_goals exact .error trivial

section

variable (hmark : IsMark mark)
include hmark

theorem spares_input (name scalar : String) (units : Units) :
    Spares mark (input name scalar units : Step α Unit) :=
  ((spares_quantityOf hmark _).registerInputUnit name).discard

theorem spares_showAs (display units : Units) :
    Spares mark (showAs display units : Step α Unit) :=
  ((spares_quantityOf hmark _).registerOutputUnit display).discard

theorem spares_showBase (units : Units) : Spares mark (showBase units : Step α Unit) :=
  spares_showAs hmark units units

theorem spares_registerPrefixed (name : String) (base : Units) (chosen : List String)
    (factor : String) : Spares mark (registerPrefixed name base chosen factor : Step α Unit) := by
  refine Safely.forM fun p _ => ?_
  split
  · exact Safely.throw trivial
  · exact (Safely.lift (failsOnly_scaled _ factor)).bind fun text _ =>
      spares_input hmark _ text base

theorem spares_registerBoth (name : String) (base : Units) (factor : String) :
    Spares mark (registerBoth name base factor : Step α Unit) :=
  (spares_input hmark name factor base).bind fun _ _ =>
    ((spares_quantityOf hmark _).registerOutputUnit _).discard

theorem spares_registerCustomary (name expression : String) :
    Spares mark (registerCustomary name expression : Step α (Quantity α)) := by
  have hfind : FailsOnly Fault.Spares
      ((Customary.find expression).mapError fun e => Fault.error (.missing e)) := by
    refine .mapError_of_forall ?_ _
    exact Missing.spares
  exact (Safely.lift hfind).bind fun _ _ => (spares_quantityOf hmark _).registerInputUnit name

theorem spares_commonUnits : Spares mark (commonUnits : Step α Unit) := by
  unfold commonUnits
  repeat' with_reducible refine Safely.bind (R := fun _ => True) ?_ fun _ _ => ?_
  all_goals first
    | with_reducible exact spares_registerPrefixed hmark _ _ _ _
    | with_reducible exact spares_showBase hmark _
    | with_reducible exact spares_input hmark _ _ _
    | with_reducible exact spares_registerBoth hmark _ _ _
    | exact Safely.forM fun u _ => (spares_registerCustomary hmark u.1 u.2).discard

theorem spares_electronicsUnits : Spares mark (electronicsUnits : Step α Unit) := by
  unfold electronicsUnits
  repeat' with_reducible refine Safely.bind (R := fun _ => True) ?_ fun _ _ => ?_
  · refine Safely.forM fun u _ => ?_
    exact (spares_registerPrefixed hmark _ _ _ _).bind fun _ _ => spares_showAs hmark _ _
  · exact spares_showAs hmark _ _
  · exact spares_registerPrefixed hmark _ _ _ _
  · exact spares_registerBoth hmark _ _ _
  · exact spares_input hmark _ _ _
  · exact Safely.forM fun p _ => spares_registerPrefixed hmark _ _ _ _
  · exact Safely.forM fun u _ => spares_input hmark _ _ _

/-- **The texts of unit sets** blame no number, whatever the mark. -/
theorem spares_install (set : UnitSet) : Spares mark (set.install : Step α Unit) := by
  have hquantity := spares_quantityOf (α := α) hmark
  cases set with
  | common =>
    exact (spares_commonUnits hmark).bind fun _ _ => ((hquantity _).setConstant _ _).bind
      fun _ _ => ((hquantity _).setConstant _ _).bind fun _ _ => (hquantity _).setConstant _ _
  | electronics =>
    exact (spares_electronicsUnits hmark).bind fun _ _ =>
      Safely.forM fun _ _ => (hquantity _).setConstant _ _

end
end UnitSet

/-! ### Snapshots -/

/-- A refusal of a snapshot whose message does not say that a number has no value. -/
def SnapshotError.Spares (cause : SnapshotError) : Prop := (CalcError.snapshot cause).Spares

theorem failsOnly_snapshot {β : Type} {x : Except SnapshotError β}
    (h : FailsOnly SnapshotError.Spares x) :
    FailsOnly CalcError.Spares (x.mapError CalcError.snapshot) :=
  h.mapError fun _ he => he

namespace Snapshot

theorem failsOnly_toDimension (items : List Json) :
    FailsOnly SnapshotError.Spares (toDimension items) := by
  unfold toDimension
  repeat' split
  all_goals first
    | exact .ok _
    | exact .error (SnapshotError.spares nofun)

theorem failsOnly_toDimensionItem (raw : Json) :
    FailsOnly SnapshotError.Spares (toDimensionItem raw) := by
  unfold toDimensionItem
  split
  · exact failsOnly_toDimension _
  · exact .error (SnapshotError.spares nofun)

theorem failsOnly_unitsOf (raw : Json) : FailsOnly Fault.Spares (unitsOf raw) := by
  have hunits : FailsOnly SnapshotError.Spares (toUnits raw) := by
    unfold toUnits
    split
    · exact .ok _
    · exact .ok _
    · exact (failsOnly_toDimension _).bind fun _ => .ok _
    · refine Except.FailsOnly.bind (fun e h => ?_) fun _ => .ok _
      obtain ⟨item, -, h⟩ := Except.mapM_eq_error h
      exact failsOnly_toDimensionItem item e h
    · exact .error (SnapshotError.spares nofun)
  exact hunits.mapError fun _ he => he

theorem failsOnly_toDescription (raw : Option Json) :
    FailsOnly SnapshotError.Spares (toDescription raw) := by
  unfold toDescription
  split
  · exact .ok _
  · exact .ok _
  · exact .ok _
  · exact .error (SnapshotError.spares nofun)

theorem failsOnly_objectPart (body : List (String × Json)) (name : String) :
    FailsOnly SnapshotError.Spares (objectPart body name) := by
  unfold objectPart
  split
  · exact .ok _
  · exact .ok _
  · exact .error (SnapshotError.spares nofun)

theorem failsOnly_listPart (body : List (String × Json)) (name : String) :
    FailsOnly SnapshotError.Spares (listPart body name) := by
  unfold listPart
  split
  · exact .ok _
  · exact .ok _
  · exact .error (SnapshotError.spares nofun)

theorem failsOnly_kindOf (raw : Option Json) : FailsOnly SnapshotError.Spares (kindOf raw) := by
  unfold kindOf
  split
  · exact .ok _
  · split
    · exact .ok _
    · exact .error (SnapshotError.spares nofun)
  · exact .error (SnapshotError.spares nofun)

theorem failsOnly_header (data : Json) : FailsOnly SnapshotError.Spares (header data) := by
  unfold header
  split
  · refine (failsOnly_kindOf _).bind fun _ => (failsOnly_objectPart _ _).bind fun settings => ?_
    split
    · exact .ok _
    · exact .error (SnapshotError.spares nofun)
  · exact .error (SnapshotError.spares nofun)

variable {α : Type} [Scalar α] [Scalar.Sparing α]

theorem failsOnly_toScalar (raw : Json) :
    FailsOnly Fault.Spares (toScalar raw : Except Fault α) := by
  have hraw : FailsOnly Fault.Spares (Scalar.ofJson raw : Except Fault α) :=
    Scalar.Sparing.ofJson raw
  unfold toScalar
  split
  · rename_i cause h
    have hcause : cause.Spares := hraw _ h
    exact .error hcause
  · exact hraw

theorem failsOnly_toQuantity (raw : Json) :
    FailsOnly Fault.Spares (toQuantity raw : Except Fault (Quantity α)) := by
  unfold toQuantity
  split
  · exact .error (SnapshotError.spares nofun)
  · exact (failsOnly_toScalar _).bind fun _ => (failsOnly_unitsOf _).bind fun _ => .ok _

theorem failsOnly_toVariable (raw : Json) :
    FailsOnly Fault.Spares (toVariable raw : Except Fault (Variable α)) := by
  unfold toVariable
  split
  · exact .error (SnapshotError.spares nofun)
  · have hdescription : FailsOnly Fault.Spares ((toDescription (raw.get? "d")).mapError
        fun e => Fault.error (.snapshot e)) :=
      (failsOnly_toDescription _).mapError fun _ he => he
    exact hdescription.bind fun _ => (failsOnly_toQuantity _).bind fun _ => .ok _

open Calculator

theorem spares_loadInputUnit (name : String) (raw : Json) :
    Spares mark (loadInputUnit name raw : Step α Unit) :=
  (Safely.lift (failsOnly_toQuantity raw)).bind fun _ _ =>
    (Spares.registerInputUnit (Safely.pure trivial) name).discard

theorem spares_loadConstant (name : String) (raw : Json) :
    Spares mark (loadConstant name raw : Step α Unit) :=
  (Safely.lift (failsOnly_toVariable raw)).bind fun _ _ =>
    Spares.setConstant (Safely.pure trivial) name _

theorem spares_loadVariable (name : String) (raw : Json) :
    Spares mark (loadVariable name raw : Step α Unit) :=
  (Safely.lift (failsOnly_toVariable raw)).bind fun _ _ =>
    Spares.setVariable (Safely.pure trivial) name _

theorem spares_loadOutputUnit (raw : Json) :
    Spares mark (loadOutputUnit raw : Step α Unit) := by
  unfold loadOutputUnit
  split
  · refine (Safely.lift (failsOnly_toScalar _)).bind fun _ _ => ?_
    refine (Safely.lift (failsOnly_unitsOf _)).bind fun _ _ => ?_
    refine (Safely.lift (failsOnly_unitsOf _)).bind fun _ _ => ?_
    exact (Spares.registerOutputUnit (Safely.pure trivial) _).discard
  · exact Safely.throw (SnapshotError.spares nofun)

omit [Scalar.Sparing α] [Scalar α] in
theorem spares_loadFunction (hmark : IsMark mark) (raw : Json) :
    Spares mark (loadFunction raw : Step α Unit) := by
  unfold loadFunction
  split
  · exact (spares_registerFunction hmark _ _ _).discard
  · exact Safely.throw (SnapshotError.spares nofun)

omit [Scalar.Sparing α] [Scalar α] in
theorem spares_objectPart (body : List (String × Json)) (name : String) :
    Spares mark (objectPart body name : Step α (List (String × Json))) :=
  Safely.untouched (failsOnly_error (failsOnly_snapshot (failsOnly_objectPart body name)))

omit [Scalar.Sparing α] [Scalar α] in
theorem spares_listPart (body : List (String × Json)) (name : String) :
    Spares mark (listPart body name : Step α (List Json)) :=
  Safely.untouched (failsOnly_error (failsOnly_snapshot (failsOnly_listPart body name)))

theorem spares_loadBody (hmark : IsMark mark) (body : List (String × Json)) :
    Spares mark (loadBody body : Step α Unit) := by
  have hparts : Spares mark (loadParts body : Step α Unit) :=
    (spares_objectPart body _).bind fun _ _ =>
    (Safely.forM fun e _ => spares_loadInputUnit e.1 e.2).bind fun _ _ =>
    (spares_listPart body _).bind fun _ _ =>
    (Safely.forM fun raw _ => spares_loadOutputUnit raw).bind fun _ _ =>
    (spares_objectPart body _).bind fun _ _ =>
    (Safely.forM fun e _ => spares_loadConstant e.1 e.2).bind fun _ _ =>
    (spares_objectPart body _).bind fun _ _ =>
    (Safely.forM fun e _ => spares_loadVariable e.1 e.2).bind fun _ _ =>
    (spares_listPart body _).bind fun _ _ =>
    Safely.forM fun raw _ => spares_loadFunction hmark raw
  refine Safely.tryCatch hparts fun fault hfault => Safely.throw ?_
  -- the fault of a snapshot has the message of what it stands for
  unfold asSnapshotFault
  split
  · exact hfault
  · rename_i cause _
    have hcause : cause.Spares := hfault
    exact hcause
  · exact hfault

theorem spares_loadInto (hmark : IsMark mark) (data : Json) :
    Spares mark (loadInto data : Step α Unit) := by
  have hheader : FailsOnly Fault.Spares ((header data).mapError fun e =>
      Fault.error (.snapshot e)) :=
    (failsOnly_header data).mapError fun _ he => he
  refine (Safely.lift hheader).bind fun h _ => ?_
  have hkind : (Fault.error (.snapshot (.otherKind h.kind.name (Scalar.kind α).name))).Spares :=
    SnapshotError.spares nofun
  split
  · exact spares_loadBody hmark h.body
  · exact Safely.throw_bind hkind _

end Snapshot
end QuantityCalculus
