/-
# What operations change

Whatever is done to a calculator changes it in a few ways. Expressions are evaluated in it and
answers are kept; what has passed its checks is put into a table, and entries are taken out again;
failures and events are remembered. So what all of these changes keep, every operation keeps,
whether it succeeds or fails.

An evaluation may bind the names that its expression assigns. For an expression that was read
these are words, while a tree that was built by hand may assign to anything, so the changes are
about a set of names that hold all words and perhaps more.

What an operation needs of a property is less than that. A registration keeps what its table may
be changed under, and an evaluation keeps what the evaluation of expressions of some kind keeps,
if the texts that it reads are of this kind.

**Main statements.** `Binds.registerInputUnit` and its companions, one for each registration;
`Evaluates.evaluate`; `Stable.accepts` and `Stable.evaluates`.
-/

import QuantityCalculus.Calculator.Outcome
import QuantityCalculus.Proofs.Calculator.Definitions
import QuantityCalculus.Proofs.Expr.Names
import QuantityCalculus.Proofs.Text.Blank

namespace QuantityCalculus

variable {α : Type} [Scalar α]

/-- An output unit for a dimension. -/
structure OutputUnit.Sound (dimension : Units) (u : OutputUnit α) : Prop where
  base : u.base = dimension
  dimension : u.base.isNone = false
  factor : Scalar.isTrue u.factor = true

/-- An expression assigns to no other names than some. -/
def Expr.AssignsWithin (bound : String → Prop) (e : Expr) : Prop := ∀ n, e.Assigns n → bound n

namespace Calculator

/-- One change to a calculator, where expressions assign within some names. -/
inductive Change (bound : String → Prop) : Calculator α → Calculator α → Prop
  | evaluated {c : Calculator α} {e : Expr} :
    e.AssignsWithin bound → Change bound c (outcome (valueOf e) c).2
  | answered {c : Calculator α} (q : Quantity α) : Change bound c (outcome (keepAnswer q) c).2
  | assigned {c : Calculator α} {name : String} (q : Quantity α) :
    bound name → Change bound c { c with globals := c.globals.insert name ⟨q, none⟩ }
  | variableSet {c : Calculator α} {name : String} (v : Variable α) :
    Name.check name .variable = .ok () →
      Change bound c { c with globals := c.globals.insert name v }
  | constantSet {c : Calculator α} {name : String} (v : Variable α) :
    Name.check name .constant = .ok () →
      Change bound c { c with constants := c.constants.insert name v }
  | inputUnitSet {c : Calculator α} {name : String} (q : Quantity α) :
    Name.check name .unit = .ok () →
      Change bound c { c with inputUnits := c.inputUnits.insert name q }
  | outputUnitSet {c : Calculator α} {dimension : Units} {u : OutputUnit α} :
    u.Sound dimension → Change bound c { c with outputUnits := c.outputUnits.insert dimension u }
  | functionSet {c : Calculator α} {f : Function} :
    f.Sound → Change bound c { c with functions := c.functions.define f }
  | variableRemoved {c : Calculator α} (name : String) :
    Change bound c { c with globals := c.globals.erase name }
  | variablesCleared {c : Calculator α} : Change bound c { c with globals := .empty, answers := [] }
  | constantRemoved {c : Calculator α} (name : String) :
    Change bound c { c with constants := c.constants.erase name }
  | inputUnitRemoved {c : Calculator α} (name : String) :
    Change bound c { c with inputUnits := c.inputUnits.erase name }
  | outputUnitRemoved {c : Calculator α} (dimension : Units) :
    Change bound c { c with outputUnits := c.outputUnits.erase dimension }
  | functionRemoved {c : Calculator α} (key : String × Nat) :
    Change bound c { c with functions := c.functions.erase key }
  | cleared {c : Calculator α} : Change bound c c.clear
  | failed {c : Calculator α} (message : String) : Change bound c (c.postDiagnostic message)
  | recorded {c : Calculator α} (event : Event) : Change bound c (c.record event)

/-- No change touches the settings. -/
theorem Change.settings {bound : String → Prop} {c c' : Calculator α} (h : Change bound c c') :
    c'.settings = c.settings := by
  cases h with
  | answered q =>
    unfold Calculator.keepAnswer
    rw [outcome_bind_ok (outcome_get c)]
    split <;> rfl
  | _ => rfl

/-- No change touches the built-in functions. -/
theorem Change.builtins {bound : String → Prop} {c c' : Calculator α} (h : Change bound c c') :
    c'.builtins = c.builtins := by
  cases h with
  | answered q =>
    unfold Calculator.keepAnswer
    rw [outcome_bind_ok (outcome_get c)]
    split <;> rfl
  | _ => rfl

/-- No change touches the frames of the host that an evaluation may use. -/
theorem Change.room {bound : String → Prop} {c c' : Calculator α} (h : Change bound c c') :
    c'.room = c.room := by
  cases h with
  | answered q =>
    unfold Calculator.keepAnswer
    rw [outcome_bind_ok (outcome_get c)]
    split <;> rfl
  | _ => rfl

/-! ### Registrations -/

/-- A property of calculators that is kept when what has passed its checks is bound to a name. -/
structure Binds (P : Calculator α → Prop) : Prop where
  variableSet : ∀ {c : Calculator α} {name : String} (v : Variable α),
    Name.check name .variable = .ok () → P c → P { c with globals := c.globals.insert name v }
  constantSet : ∀ {c : Calculator α} {name : String} (v : Variable α),
    Name.check name .constant = .ok () → P c → P { c with constants := c.constants.insert name v }
  inputUnitSet : ∀ {c : Calculator α} {name : String} (q : Quantity α),
    Name.check name .unit = .ok () → P c → P { c with inputUnits := c.inputUnits.insert name q }
  recorded : ∀ {c : Calculator α} (event : Event), P c → P (c.record event)

/-- A property of calculators that is kept when what has passed its checks is put into a table. -/
structure Accepts (P : Calculator α → Prop) : Prop extends Binds P where
  outputUnitSet : ∀ {c : Calculator α} {dimension : Units} {u : OutputUnit α}, u.Sound dimension →
    P c → P { c with outputUnits := c.outputUnits.insert dimension u }

variable {P : Calculator α → Prop}

omit [Scalar α] in
theorem checkName_lift (name : String) (role : NameRole) :
    Keeps P (fun _ => Name.check name role = .ok ()) (checkName name role : Step α Unit) :=
  (Keeps.lift _).imp fun _ h => Except.mapError_eq_ok_iff.1 (Except.mapError_eq_ok_iff.1 h)

section

variable {value : Step α (Quantity α)}

omit [Scalar α] in
theorem Binds.setVariable (h : Binds P) (name : String) (hv : Keeps P (fun _ => True) value)
    (description : Option String) :
    Keeps P (fun _ => True) (setVariable name value description) :=
  (checkName_lift name .variable).bind fun _ hn => hv.bind fun _ _ =>
    Keeps.modify fun _ hc => h.variableSet _ hn hc

omit [Scalar α] in
theorem Binds.setConstant (h : Binds P) (name : String) (hv : Keeps P (fun _ => True) value)
    (description : Option String) :
    Keeps P (fun _ => True) (setConstant name value description) :=
  (checkName_lift name .constant).bind fun _ hn => hv.bind fun _ _ =>
    Keeps.modify fun _ hc => h.constantSet _ hn hc

omit [Scalar α] in
theorem Binds.registerInputUnit (h : Binds P) (name : String)
    (hv : Keeps P (fun _ => True) value) :
    Keeps P (fun _ => True) (registerInputUnit name value) := by
  refine (checkName_lift name .unit).bind fun _ hn => hv.bind fun q _ => ?_
  refine (Keeps.modify fun c hc => ?_).bind fun _ _ => Keeps.pure trivial
  dsimp only
  split
  · exact h.inputUnitSet q hn (h.recorded _ hc)
  · exact h.inputUnitSet q hn hc

theorem Accepts.registerOutputUnit (h : Accepts P) (display : Units)
    (hv : Keeps P (fun _ => True) value) :
    Keeps P (fun _ => True) (registerOutputUnit display value) := by
  refine hv.bind fun q _ => ?_
  dsimp only
  split
  · exact Keeps.throw_bind _ _
  rename_i hpure
  split
  · exact Keeps.throw_bind _ _
  rename_i htrue
  let unit : OutputUnit α := ⟨display, q.units, q.scalar⟩
  have hunit : unit.Sound q.units :=
    ⟨rfl, by simpa [Quantity.isPure] using hpure, by simpa [Quantity.isTrue] using htrue⟩
  refine (Keeps.modify fun c hc => ?_).bind fun _ _ => Keeps.pure trivial
  split
  · split
    · exact h.outputUnitSet hunit hc
    · exact h.outputUnitSet hunit (h.recorded _ hc)
  · exact h.outputUnitSet hunit hc

end

omit [Scalar α] in
theorem read_eq_ok_iff {c : Calculator α} {text : String} {e : Expr} :
    c.read text = .ok e ↔
      ∃ marks, c.settings.marks = .ok marks ∧ Expr.read marks c.isUnit text = .ok e := by
  constructor
  · intro h
    obtain ⟨marks, hmarks, hread⟩ := Except.bind_eq_ok_iff.1 h
    exact ⟨marks, Except.mapError_eq_ok_iff.1 hmarks, Except.mapError_eq_ok_iff.1 hread⟩
  · rintro ⟨marks, hmarks, hread⟩
    exact Except.bind_eq_ok_iff.2
      ⟨marks, Except.mapError_eq_ok_iff.2 hmarks, Except.mapError_eq_ok_iff.2 hread⟩

/-- A value is no parameter, or it is the value of the parameter that it stands for. -/
theorem parameterOf_toJson {v : Json} {p : Parameter} (h : parameterOf v = .ok p) :
    parameterOf p.toJson = .ok p := by
  cases v <;> cases h <;> rfl

theorem parameterOf_of_parametersOf {v : Json} {ps : List Parameter}
    (h : parametersOf v = .ok ps) : ∀ p ∈ ps, parameterOf p.toJson = .ok p := by
  have hnames {γ : Type} (f : γ → String) (cs : List γ) :
      ∀ p ∈ cs.map fun c => Parameter.name (f c), parameterOf p.toJson = .ok p := by
    intro p hp
    obtain ⟨c, -, rfl⟩ := List.mem_map.1 hp
    rfl
  cases v with
  | str s =>
    cases h
    exact hnames _ _
  | obj members =>
    cases h
    exact hnames _ _
  | arr items =>
    intro p hp
    obtain ⟨v, -, hv⟩ := Except.mem_of_mapM h p hp
    exact parameterOf_toJson hv
  | null | bool _ | int _ | float _ => cases h

/-- A function as it is registered from parameters and the text of its body. -/
structure Registered (c : Calculator α) (parameters : Json) (body : String) (f : Function) :
    Prop where
  check : Function.check f.name f.parameters = .ok ()
  parameters : parametersOf parameters = .ok f.parameters
  read : c.read body = .ok f.body
  bodyText : f.bodyText = Text.trimmed body

omit [Scalar α] in
theorem Registered.sound {c : Calculator α} {parameters : Json} {body : String} {f : Function}
    (h : c.Registered parameters body f) : f.Sound where
  check := h.check
  parameters := parameterOf_of_parametersOf h.parameters
  bodyText := .inl (by rw [h.bodyText, Text.trimmed_trimmed])

omit [Scalar α] in
theorem keeps_registerFunction {name parameters : Json} {body : String}
    (h : ∀ {c s : Calculator α} {f : Function}, P c → c.Registered parameters body f → P s →
      P { s with functions := s.functions.define f }) :
    Keeps P (fun _ => True) (registerFunction name parameters body : Step α Function) := by
  refine (Keeps.untouched _).bind fun n _ => (Keeps.lift _).bind fun ps hps => ?_
  refine (Keeps.lift _).bind fun _ hcheck => Keeps.get.bind fun c hc => ?_
  refine (Keeps.lift _).bind fun e hread => ?_
  refine (Keeps.modify fun s hs => ?_).bind fun _ _ => Keeps.pure trivial
  have hcheck : Function.check n ps = .ok () :=
    Except.mapError_eq_ok_iff.1 (Except.mapError_eq_ok_iff.1 hcheck)
  exact h hc ⟨hcheck, hps, hread, rfl⟩ hs

/-! ### Evaluations -/

/-- A property of calculators that is kept when expressions of some kind are evaluated. -/
structure Evaluates (A : Expr → Prop) (P : Calculator α → Prop) : Prop where
  /-- parts of such expressions are of this kind, too -/
  part : ∀ {e a : Expr}, A e → a.walk ⊆ e.walk → A a
  valueOf : ∀ {e : Expr}, A e → Keeps P (fun _ => True) (valueOf e : Step α (Quantity α))
  keepAnswer : ∀ q : Quantity α, Keeps P (fun _ => True) (keepAnswer q : Step α Unit)
  failed : ∀ {c : Calculator α} (message : String), P c → P (c.postDiagnostic message)

omit [Scalar α] in
/-- An answer goes to the variables or to the answers under no name. -/
theorem keeps_keepAnswer (q : Quantity α)
    (hglobals : ∀ {c : Calculator α} (globals : Scope α), P c → P { c with globals })
    (hanswers : ∀ {c : Calculator α} (answers : List (Json × Variable α)),
      P c → P { c with answers }) :
    Keeps P (fun _ => True) (keepAnswer q : Step α Unit) := by
  refine Keeps.get.bind fun c hc => ?_
  split
  · exact Keeps.set (hglobals _ hc)
  · exact Keeps.throw _
  · exact Keeps.throw _
  · exact Keeps.set (hanswers _ hc)

namespace Evaluates

variable {A : Expr → Prop}

theorem valueOfText (h : Evaluates A P)
    (hread : ∀ {text e}, Expr.read .standard (fun _ => false) text = .ok e → A e) (text : String) :
    Keeps P (fun _ => True) (valueOfText text : Step α α) := by
  refine (Keeps.lift _).bind fun e he => ?_
  refine (h.valueOf (hread (Except.mapError_eq_ok_iff.1 he))).bind fun q _ => ?_
  split
  · exact Keeps.pure trivial
  · exact Keeps.throw_bind _ _

theorem scalarOf (h : Evaluates A P)
    (hread : ∀ {text e}, Expr.read .standard (fun _ => false) text = .ok e → A e)
    (g : GivenScalar) : Keeps P (fun _ => True) (scalarOf g : Step α α) := by
  unfold Calculator.scalarOf
  split
  · split
    · exact Keeps.pure trivial
    · exact Keeps.throw _
  · exact Keeps.pure trivial
  · exact Keeps.untouched _
  · exact h.valueOfText hread _

theorem quantityOf (h : Evaluates A P)
    (hread : ∀ {text e}, Expr.read .standard (fun _ => false) text = .ok e → A e) (g : Given) :
    Keeps P (fun _ => True) (quantityOf g : Step α (Quantity α)) := by
  unfold Calculator.quantityOf
  exact (h.scalarOf hread g.scalar).bind fun _ _ => Keeps.pure trivial

theorem valueOfDefinition (h : Evaluates A P)
    (hread : ∀ {c : Calculator α} {text e}, P c → c.read text = .ok e → A e) (text : String) :
    Keeps P (fun _ => True) (valueOfDefinition text : Step α (Quantity α)) :=
  Keeps.get.bind fun _ hc => (Keeps.lift _).bind fun _ he => h.valueOf (hread hc he)

theorem fail (h : Evaluates A P) (message : String) :
    Keeps P (fun _ => True) (fail message : Step α (Outcome α)) :=
  (Keeps.modify fun _ hc => h.failed message hc).bind fun _ _ => Keeps.pure trivial

theorem convert (h : Evaluates A P) {value target : Expr} (hv : A value) (ht : A target) :
    Keeps P (fun _ => True) (convert value target : Step α (Outcome α)) :=
  (h.valueOf hv).bind fun _ _ => (h.valueOf ht).bind fun _ _ =>
    (Keeps.untouched _).bind fun _ _ => Keeps.pure trivial

theorem result (h : Evaluates A P) {e : Expr} (he : A e) :
    Keeps P (fun _ => True) (result e : Step α (Outcome α)) := by
  refine (h.valueOf he).bind fun base _ => Keeps.get.bind fun c _ => ?_
  split
  · exact (Keeps.untouched _).bind fun _ _ => Keeps.pure trivial
  · exact Keeps.pure trivial

theorem resolve (h : Evaluates A P) {e : Expr} (he : A e) :
    Keeps P (fun _ => True) (resolve e : Step α (Outcome α)) := by
  refine Keeps.tryCatch ?_ fun fault => ?_
  · split
    · rename_i value target _ hconversion
      obtain ⟨hv, ht⟩ := Expr.walk_conversion hconversion
      exact h.convert (h.part he hv) (h.part he ht)
    · exact h.result he
  · split
    · exact h.fail _
    · exact h.fail _
    · exact Keeps.throw _

theorem evaluate (h : Evaluates A P)
    (hread : ∀ {c : Calculator α} {text e}, P c → c.read text = .ok e → A e) (text : String) :
    Keeps P (fun _ => True) (evaluate text : Step α (Outcome α)) := by
  refine Keeps.get.bind fun c hc => ?_
  split
  · exact h.fail _
  · exact Keeps.throw _
  · rename_i e he
    refine (h.resolve (hread hc he)).bind fun o _ => ?_
    split
    · exact Keeps.pure trivial
    · refine Keeps.get.bind fun c _ => ?_
      split
      · exact (h.keepAnswer _).bind fun _ _ => Keeps.pure trivial
      · exact Keeps.pure trivial

end Evaluates

/-! ### Changes -/

/-- A property of calculators that is kept by changes in which expressions assign within some
names, all words among them. -/
structure Stable (bound : String → Prop) (P : Calculator α → Prop) : Prop where
  words : ∀ n, Name.Written n → bound n
  change : ∀ {c c' : Calculator α}, Change bound c c' → P c → P c'

namespace Stable

variable {bound : String → Prop}

theorem accepts (h : Stable bound P) : Accepts P where
  variableSet v hn := h.change (.variableSet v hn)
  constantSet v hn := h.change (.constantSet v hn)
  inputUnitSet q hn := h.change (.inputUnitSet q hn)
  outputUnitSet hu := h.change (.outputUnitSet hu)
  recorded event := h.change (.recorded event)

theorem evaluates (h : Stable bound P) : Evaluates (Expr.AssignsWithin bound) P where
  part he hs n hn := he n (hn.of_subset hs)
  valueOf he _ hc := ⟨h.change (.evaluated he) hc, fun _ _ => trivial⟩
  keepAnswer q _ hc := ⟨h.change (.answered q) hc, fun _ _ => trivial⟩
  failed message := h.change (.failed message)

/-- What is read assigns to words. -/
theorem assigns_read (h : Stable bound P) {marks : Marks} {isUnit : String → Bool} {text : String}
    {e : Expr} (hread : Expr.read marks isUnit text = .ok e) : e.AssignsWithin bound :=
  fun _ hn => h.words _ (Expr.assigns_written hread hn)

theorem assigns_of_read (h : Stable bound P) {c : Calculator α} {text : String} {e : Expr}
    (hread : c.read text = .ok e) : e.AssignsWithin bound := by
  obtain ⟨marks, -, hread⟩ := read_eq_ok_iff.1 hread
  exact h.assigns_read hread

theorem registerFunction (h : Stable bound P) (name parameters : Json) (body : String) :
    Keeps P (fun _ => True) (registerFunction name parameters body : Step α Function) :=
  keeps_registerFunction fun _ hf hs => h.change (.functionSet hf.sound) hs

theorem removeVariable (h : Stable bound P) (name : String) :
    Keeps P (fun _ => True) (removeVariable name : Step α Bool) :=
  Keeps.modifyGet fun _ hc => h.change (.variableRemoved name) hc

theorem removeConstant (h : Stable bound P) (name : String) :
    Keeps P (fun _ => True) (removeConstant name : Step α Bool) :=
  Keeps.modifyGet fun _ hc => h.change (.constantRemoved name) hc

theorem clearVariables (h : Stable bound P) :
    Keeps P (fun _ => True) (clearVariables : Step α Unit) :=
  Keeps.modify fun _ hc => h.change .variablesCleared hc

theorem removeInputUnit (h : Stable bound P) (name : String) :
    Keeps P (fun _ => True) (removeInputUnit name : Step α Bool) :=
  Keeps.modifyGet fun _ hc => h.change (.inputUnitRemoved name) hc

theorem removeOutputUnit (h : Stable bound P) (base : Units) :
    Keeps P (fun _ => True) (removeOutputUnit base : Step α Bool) :=
  Keeps.modifyGet fun _ hc => h.change (.outputUnitRemoved base) hc

theorem removeFunction (h : Stable bound P) (name : String) (arity : Nat) :
    Keeps P (fun _ => True) (removeFunction name arity : Step α Bool) :=
  Keeps.modifyGet fun _ hc => h.change (.functionRemoved (name, arity)) hc

end Stable
end Calculator
end QuantityCalculus
