/-
# Numbers that a calculator meets

Every number that a calculator reads has a value, and so has every number in the bodies of its
functions, as long as its decimal mark stays the same. Then nothing that is done to the calculator
ends with the complaint that a number could not be evaluated, and no such complaint is remembered.

**Main statements.** `Operation.spares`: one operation; `HeldTo.legible`: every history;
`numbers_have_values`: every number that is read, and everything that is said.
-/

import QuantityCalculus.Proofs.Calculator.Complaint
import QuantityCalculus.Proofs.Calculator.OutputUnits

namespace QuantityCalculus

open QuantityCalculus.Except (FailsOnly)
open Number (IsMark)

variable {mark : Char}

/-- A node of an expression that was read with this decimal mark or with the point. -/
def Expr.ReadWith (mark : Char) (e : Expr) : Prop :=
  ∃ (m : Marks) (isUnit : String → Bool) (text : String) (whole : Expr),
    (m.decimal = some mark ∨ m.decimal = some '.') ∧ read m isUnit text = .ok whole ∧
      e ∈ whole.walk

theorem Expr.ReadWith.legible {e : Expr} (hmark : IsMark mark) (h : e.ReadWith mark) :
    e.Legible mark := by
  obtain ⟨_, _, _, _, hm, hread, hmem⟩ := h
  exact (legible_of_read hmark hm hread).of_subset (walk_subset hmem)

/-! ### Operations -/

namespace Operation

open Calculator

variable {α : Type}

/-- An operation that is given nothing but expressions that were read with a decimal mark or with
the point, and leaves the mark as it is. -/
def ReadsWith (mark : Char) : Operation α → Prop
  | resolve e | registerTree _ _ e => e.ReadWith mark
  | adjust settings => settings.HasDecimal mark
  | _ => True

variable [Scalar α] [Scalar.Sparing α]

/-- **An operation blames no number,** and the calculator stays legible. -/
theorem spares (hmark : IsMark mark) {op : Operation α} (hop : op.ReadsWith mark) :
    Spares mark op.step := by
  cases op with
  | evaluate text => exact (spares_evaluate hmark text).discard
  | resolve e => exact (spares_resolve (Expr.ReadWith.legible hmark hop)).discard
  | setVariable name value description =>
    exact (spares_quantityOf hmark value).setVariable name description
  | setConstant name value description =>
    exact (spares_quantityOf hmark value).setConstant name description
  | registerInputUnit name value =>
    exact ((spares_quantityOf hmark value).registerInputUnit name).discard
  | registerOutputUnit display value =>
    exact ((spares_quantityOf hmark value).registerOutputUnit display).discard
  | defineInputUnit name text =>
    exact ((spares_valueOfDefinition hmark text).bind fun _ _ =>
      Spares.registerInputUnit (Safely.pure trivial) name).discard
  | defineOutputUnit display text =>
    exact ((spares_valueOfDefinition hmark text).bind fun _ _ =>
      Spares.registerOutputUnit (Safely.pure trivial) display).discard
  | registerFunction name parameters body =>
    exact (spares_registerFunction hmark name parameters body).discard
  | registerTree name parameters body =>
    refine (Safely.lift (failsOnly_error (failsOnly_invalid (failsOnly_nameOf _ _)))).bind
      fun n _ => ?_
    refine (Safely.lift (failsOnly_parametersOf parameters)).bind fun ps _ => ?_
    refine (Safely.lift (failsOnly_error (failsOnly_invalid
      (Function.failsOnly_check n ps)))).bind fun _ _ => ?_
    have hbody : body.Legible mark := Expr.ReadWith.legible hmark hop
    exact Safely.modify fun c hc => { hc with functions := hc.functions.define hbody }
  | assignVariable name value => exact Safely.modify fun _ hc => { hc with }
  | removeVariable _ | removeConstant _ | removeInputUnit _ | removeOutputUnit _ =>
    exact Safely.discard (Safely.modifyGet fun _ hc => { hc with })
  | removeFunction name arity =>
    exact Safely.discard (Safely.modifyGet fun _ hc =>
      { hc with functions := Table.forall_erase hc.functions })
  | clearVariables => exact Safely.modify fun _ hc => { hc with }
  | install set => exact UnitSet.spares_install hmark set
  | load data => exact Snapshot.spares_loadInto hmark data
  | adjust settings => exact Safely.modify fun _ hc => { hc with decimal := hop }
  | clear =>
    exact Safely.modify fun _ hc =>
      { hc with functions := Table.forall_empty, diagnostics := fun _ hm => by cases hm }

end Operation

namespace Calculator

variable {α : Type} [Scalar α]

/-- The calculators that come from a new one by operations and have had the same decimal mark all
the time. Where the mark was another one before, functions may have been read with that. -/
inductive HeldTo (mark : Char) : Calculator α → Prop
  | create {settings : Settings} {c : Calculator α} :
    Calculator.create settings = .ok c → settings.HasDecimal mark → HeldTo mark c
  | withBuiltins {c : Calculator α} : HeldTo mark c → HeldTo mark c.withBuiltins
  | step {c : Calculator α} (op : Operation α) :
    op.ReadsWith mark → HeldTo mark c → HeldTo mark (outcome op.step c).2

omit [Scalar α] in
theorem legible_new {settings : Settings} (h : settings.HasDecimal mark) :
    Legible mark ({ settings } : Calculator α) where
  room := rfl
  decimal := h
  functions := Table.forall_empty
  diagnostics _ hm := by cases hm

/-- **A calculator that is held to a mark** is legible. -/
theorem HeldTo.legible [Scalar.Sparing α] (hmark : IsMark mark) {c : Calculator α}
    (h : c.HeldTo mark) : c.Legible mark := by
  induction h with
  | create hcreate hdecimal =>
    obtain ⟨-, rfl⟩ := create_eq_ok hcreate
    exact legible_new hdecimal
  | withBuiltins _ ih => exact { ih with }
  | step op hop _ ih => exact ((Operation.spares hmark hop).keeps _ ih).1

theorem outcome_value_scalar {ctx : Context α} {call : Caller α} {room : Room} {x : String}
    {r : Except Fault (Quantity α)} (h : Expr.valueOfScalar ctx.settings x = r) (st : Store α) :
    outcome (Expr.value ctx call room (.scalar x)) st = (r, st) := by
  rw [Expr.value, h]
  cases r <;> rfl

/-- A number alone in an expression has its value, if any, and nothing is changed. -/
theorem outcome_valueOf_scalar {c : Calculator α} {x : String} {r : Except Fault (Quantity α)}
    (h : Expr.valueOfScalar c.settings x = r) : outcome (valueOf (.scalar x)) c = (r, c) := by
  rw [outcome_valueOf, Machine.resolve, outcome_value_scalar h]
  rfl

/-- A number behind a minus sign has its negative. -/
theorem outcome_valueOf_minus {c : Calculator α} {x s : String} {room : Room} {q : Quantity α}
    (hroom : c.room.spend 2 = .ok room) (h : Expr.valueOfScalar c.settings x = .ok q) :
    outcome (valueOf (.unary .minus (.scalar x) s)) c = (.ok q.neg, c) := by
  have hminus : outcome (Expr.value c.machine.context (c.machine.caller c.room) c.room
      (.unary .minus (.scalar x) s)) c.machine.store = (.ok q.neg, c.machine.store) := by
    rw [Expr.value, hroom]
    · exact (outcome_bind_ok rfl).trans ((outcome_bind_ok (outcome_value_scalar h _)).trans rfl)
    · intro _ _ _ h
      cases h
  rw [outcome_valueOf, Machine.resolve, hminus]
  rfl

/-- No message of a calculator says that a number has no value: not when it evaluates a text or an
expression that was read, not when another operation fails, and not afterwards. -/
structure BlamesNone (mark : Char) (c : Calculator α) : Prop where
  evaluate : ∀ (text message : String), (outcome (evaluate text) c).1 = .ok (.failure message) →
    ¬ BlamesNumber message
  resolve : ∀ (e : Expr) message, e.ReadWith mark →
    (outcome (resolve e) c).1 = .ok (.failure message) → ¬ BlamesNumber message
  step : ∀ (op : Operation α) cause, op.ReadsWith mark →
    (outcome op.step c).1 = .error (.error cause) → ¬ BlamesNumber cause.message
  diagnostics : ∀ message ∈ c.diagnostics, ¬ BlamesNumber message

variable [Scalar.Sparing α]

theorem Legible.blamesNone (hmark : IsMark mark) {c : Calculator α} (hc : c.Legible mark) :
    c.BlamesNone mark where
  evaluate text _ h := ((spares_evaluate hmark text).keeps c hc).2 _ h
  resolve _ _ he h := ((spares_resolve (he.legible hmark)).keeps c hc).2 _ h
  step _ _ hop h := (Operation.spares hmark hop).fails c hc _ h
  diagnostics := hc.diagnostics

end Calculator

namespace Snapshot

open Calculator

variable {α : Type} [Scalar α]

/-- The settings that a calculator from a snapshot starts with. -/
def Header.startSettings (h : Header) : Settings := (Settings.ofMembers? h.settings).getD {}

/-- A calculator from a snapshot is held to the mark of its settings. -/
theorem heldTo_of_loadNew {data : Json} {h : Header} {c : Calculator α}
    (hdecimal : h.startSettings.HasDecimal mark) (hheader : header data = .ok h)
    (hkind : h.kind = Scalar.kind α) (hload : loadNew h = .ok c) : c.HeldTo mark := by
  obtain ⟨c₀, hstart, hbody⟩ := loadNew_eq_ok hload
  obtain ⟨hcheck, rfl⟩ := start_eq_ok hstart
  have hcreate : Calculator.create h.startSettings =
      .ok ({ settings := h.startSettings } : Calculator α) := by
    show (h.startSettings.check >>= fun _ => _) = _
    rw [show h.startSettings.check = .ok () from hcheck]
    rfl
  have hstep : (outcome (Operation.load data : Operation α).step _).2 = c :=
    congrArg Prod.snd ((outcome_loadInto hheader hkind _).trans hbody)
  rw [← hstep]
  exact .step _ trivial (.withBuiltins (.create hcreate hdecimal))

/-- A snapshot is refused with other messages. -/
theorem failsOnly_loadNew [Scalar.Sparing α] (hmark : IsMark mark) {h : Header}
    (hdecimal : h.startSettings.HasDecimal mark) :
    FailsOnly Fault.Spares (loadNew h : Except Fault (Calculator α)) := by
  intro fault hload
  rcases Except.bind_eq_error hload with hload | ⟨c, hstart, hload⟩
  · obtain ⟨e, he, rfl⟩ := Except.mapError_eq_error_iff.1 hload
    unfold start at he
    split at he <;> cases he
    exact SnapshotError.spares nofun
  · have hstart : start h.settings = .ok c := Except.mapError_eq_ok_iff.1 hstart
    obtain ⟨-, rfl⟩ := start_eq_ok hstart
    have hlegible : Calculator.Legible mark
        (withBuiltins ({ settings := h.startSettings } : Calculator α)) :=
      { legible_new (α := α) hdecimal with }
    rcases Except.bind_eq_error hload with hbody | ⟨_, -, hload⟩
    · exact (spares_loadBody hmark h.body).fails _ hlegible fault hbody
    · cases hload

end Snapshot

/-- **Every number that is read has a value,** for calculators over either kind of scalars and a
decimal mark that is no letter, no digit and no sign. In every calculator with this mark, a number
of an expression that was read with the mark or with the point is evaluated to a real number, and
nothing is changed. So a calculator that has had the mark all the time never says that a number
could not be evaluated, whatever was done to it and whatever it is asked; calculators from snapshots
are among these. -/
theorem numbers_have_values (hmark : IsMark mark) (w : AnyCalculator) :
    (w.get fun {α} _ c => c.settings.HasDecimal mark →
      ∀ x, (Expr.scalar x).ReadWith mark →
        ∃ y : Float, outcome (Calculator.valueOf (.scalar x)) c =
          (.ok (Quantity.pure (Scalar.ofReal y : α)), c)) ∧
    (w.get fun {_} _ c => c.HeldTo mark → c.BlamesNone mark) ∧
    ∀ data h, Snapshot.header data = .ok h → h.startSettings.HasDecimal mark →
      (Snapshot.load data = .ok w → w.get fun {_} _ c => c.HeldTo mark) ∧
      ∀ cause, Snapshot.load data = .error (.error cause) → ¬ BlamesNumber cause.message := by
  have hvalue {α : Type} [Scalar α] (c : Calculator α) (hdecimal : c.settings.HasDecimal mark)
      (x : String) (hx : (Expr.scalar x).ReadWith mark) :
      ∃ y : Float, outcome (Calculator.valueOf (.scalar x)) c =
        (.ok (Quantity.pure (Scalar.ofReal y : α)), c) := by
    obtain ⟨y, hy⟩ := (hx.legible hmark).exists_valueOfScalar (α := α) hdecimal
      (Expr.self_mem_walk _)
    exact ⟨y, Calculator.outcome_valueOf_scalar hy⟩
  refine ⟨?_, ?_, fun data h hheader hdecimal => ⟨fun hload => ?_, fun cause hload => ?_⟩⟩
  · cases w with
    | real c => exact hvalue c
    | complex c => exact hvalue c
  · cases w with
    | real c => exact fun hc => (hc.legible hmark).blamesNone hmark
    | complex c => exact fun hc => (hc.legible hmark).blamesNone hmark
  · obtain ⟨h', hheader', hload⟩ := Except.bind_eq_ok_iff.1 hload
    cases hheader.symm.trans (Except.mapError_eq_ok_iff.1 hheader')
    split at hload
    all_goals
      rename_i hkind
      obtain ⟨c, hc, hload⟩ := Except.bind_eq_ok_iff.1 hload
      cases hload
      exact Snapshot.heldTo_of_loadNew hdecimal hheader hkind hc
  · rcases Except.bind_eq_error hload with hload | ⟨h', hheader', hload⟩
    · obtain ⟨e, he, -⟩ := Except.mapError_eq_error_iff.1 hload
      cases hheader.symm.trans he
    · cases hheader.symm.trans (Except.mapError_eq_ok_iff.1 hheader')
      split at hload
      all_goals
        rcases Except.bind_eq_error hload with hload | ⟨_, -, hload⟩
        · exact Snapshot.failsOnly_loadNew hmark hdecimal _ hload
        · cases hload

/-- A calculator with a comma before fractions. -/
def commas : Calculator Float := { settings := { separator := .str ";", decimal := .str "," } }

/-- There a number has a value with a comma and with a point, and no text gives a failure with the
complaint. -/
theorem numbers_have_values_commas :
    (∃ y : Float,
      outcome (Calculator.valueOf (.scalar "1,5")) commas = (.ok (.pure y), commas)) ∧
    (∃ y : Float,
      outcome (Calculator.valueOf (.scalar "2.e+3")) commas = (.ok (.pure y), commas)) ∧
    ∀ text message, (outcome (Calculator.evaluate text) commas).1 = .ok (.failure message) →
      ¬ BlamesNumber message := by
  obtain ⟨hvalues, hblames, -⟩ := numbers_have_values Number.isMark_comma (.real commas)
  have hcomma : (Expr.scalar "1,5").ReadWith ',' :=
    ⟨⟨some ';', some ','⟩, fun _ => false, "1,5", .scalar "1,5", .inl rfl, rfl,
      Expr.self_mem_walk _⟩
  have hpoint : (Expr.scalar "2.e+3").ReadWith ',' :=
    ⟨.standard, fun _ => false, "2.e+3", .scalar "2.e+3", .inr rfl, rfl, Expr.self_mem_walk _⟩
  have hcreate : Calculator.create commas.settings = .ok commas := rfl
  exact ⟨hvalues rfl _ hcomma, hvalues rfl _ hpoint, (hblames (.create hcreate rfl)).evaluate⟩

end QuantityCalculus
