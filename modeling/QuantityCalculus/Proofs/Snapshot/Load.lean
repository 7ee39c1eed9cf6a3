/-
# Snapshots give calculators back

Loading a snapshot registers what it holds, part by part and in order. In a calculator that was
reached by operations every entry passes the checks of its registration, and the functions are
read with the units and marks they were saved with. So the calculator comes back with the same
settings and tables, but for its scalars, which are what their JSON values stand for.

**Main statement.** `load_ofCalculator`: what a snapshot gives back.
-/

import QuantityCalculus.Proofs.Calculator.Built
import QuantityCalculus.Proofs.Expr.Content
import QuantityCalculus.Proofs.Snapshot.Values

namespace QuantityCalculus

variable {α : Type}

namespace Calculator

/-- What a snapshot gives back of a calculator. -/
def reloaded [Scalar α] (c : Calculator α) : Calculator α :=
  { settings := c.settings
    constants := c.constants.mapValues Variable.reloaded
    globals := c.globals.mapValues Variable.reloaded
    inputUnits := c.inputUnits.mapValues Quantity.reloaded
    outputUnits := c.outputUnits.mapValues OutputUnit.reloaded
    functions := c.functions
    builtins := Builtin.ofKind (Scalar.kind α) }

/-- A calculator that a snapshot keeps: a new one could have its settings, its variables could
be bound again, no description is empty, and the functions have the bodies that their texts
stand for. -/
structure Storable (c : Calculator α) : Prop where
  settings : c.settings.check = .ok ()
  names : ∀ e ∈ c.namedVariables, ∃ name, nameOf e.1 .variable = .ok name
  descriptions : ∀ e ∈ c.namedVariables, e.2.description ≠ some ""
  constants : ∀ e ∈ c.constants.toList, e.2.description ≠ some ""
  bodies : ∀ e ∈ c.functions.toList, c.read (Text.trimmed e.2.bodyText) = .ok e.2.body

end Calculator

namespace Snapshot

open Calculator

/-! ### Tables -/

/-- Entries with distinct new keys that are registered one after the other fill a table. -/
theorem outcome_forM_fill {κ β γ δ : Type} [DecidableEq κ] (put : Table κ β → Calculator α)
    {f : δ → Step α Unit} {raw : γ → δ} {key : γ → κ} {val : γ → β} {gs : List γ}
    (hf : ∀ g ∈ gs, ∀ t : Table κ β, key g ∉ t.keys →
      outcome (f (raw g)) (put t) = (.ok (), put (t.insert (key g) (val g))))
    {t t' : Table κ β} (ht : t'.entries = t.entries ++ gs.map fun g => (key g, val g)) :
    outcome ((gs.map raw).forM f) (put t) = (.ok (), put t') := by
  induction gs generalizing t with
  | nil =>
    obtain rfl : t' = t := Table.ext_entries (by simpa using ht)
    rfl
  | cons g gs ih =>
    have hnew : key g ∉ t.keys := by
      have hd := t'.distinct
      rw [ht, List.map_append, List.map_cons] at hd
      intro hmem
      exact (List.nodup_append.1 hd).2.2 _ hmem _ (List.mem_cons_self ..) rfl
    have hfirst := hf g (List.mem_cons_self ..) t hnew
    have hentries : t'.entries = (t.insert (key g) (val g)).entries ++
        gs.map fun g => (key g, val g) := by
      rw [Table.entries_insert hnew, ht, List.map_cons, List.append_assoc]
      rfl
    have hrest := ih (fun d hd => hf d (List.mem_cons_of_mem g hd)) hentries
    exact (outcome_bind_ok hfirst).trans hrest

/-- The entries of a table that are registered in their order fill another one with its keys. -/
theorem outcome_forM_table {κ β γ δ : Type} [DecidableEq κ] (put : Table κ γ → Calculator α)
    {f : δ → Step α Unit} {raw : κ × β → δ} {g : β → γ} {table : Table κ β}
    (hf : ∀ e ∈ table.toList, ∀ t : Table κ γ, e.1 ∉ t.keys →
      outcome (f (raw e)) (put t) = (.ok (), put (t.insert e.1 (g e.2)))) :
    outcome ((table.toList.map raw).forM f) (put .empty) = (.ok (), put (table.mapValues g)) :=
  outcome_forM_fill put hf rfl

/-! ### Registrations that succeed -/

variable {c : Calculator α}

theorem outcome_checkName {name : String} {role : NameRole} (h : Name.check name role = .ok ())
    (c : Calculator α) : outcome (checkName name role : Step α Unit) c = (.ok (), c) := by
  rw [checkName, h]
  rfl

theorem outcome_setVariable {name : String} (hn : Name.check name .variable = .ok ())
    (q : Quantity α) (d : Option String) :
    outcome (setVariable name (pure q) d) c =
      (.ok (), { c with globals := c.globals.insert name ⟨q, d⟩ }) :=
  (outcome_bind_ok (outcome_checkName hn c)).trans rfl

theorem outcome_setConstant {name : String} (hn : Name.check name .constant = .ok ())
    (q : Quantity α) (d : Option String) :
    outcome (setConstant name (pure q) d) c =
      (.ok (), { c with constants := c.constants.insert name ⟨q, d⟩ }) :=
  (outcome_bind_ok (outcome_checkName hn c)).trans rfl

theorem outcome_registerInputUnit {name : String} (hn : Name.check name .unit = .ok ())
    (hnew : c.isUnit name = false) (q : Quantity α) :
    outcome (registerInputUnit name (pure q)) c =
      (.ok q, { c with inputUnits := c.inputUnits.insert name q }) := by
  refine (outcome_bind_ok (outcome_checkName hn c)).trans ?_
  show (Except.ok q,
    let c' := if c.isUnit name = true then c.record (.unitReplaced name) else c
    { c' with inputUnits := c'.inputUnits.insert name q }) = _
  rw [hnew]
  rfl

/-- A function that is registered again from its text gets the body that is read there. -/
theorem outcome_registerFunction_text {f : Function} (hf : f.Sound) (c : Calculator α) :
    outcome (registerFunction (.str f.name) (.arr (f.parameters.map Parameter.toJson)) f.bodyText)
      c =
      match c.read f.bodyText with
      | .error fault => (.error fault, c)
      | .ok body =>
        let g : Function := { f with body, bodyText := Text.trimmed f.bodyText }
        (.ok g, { c with functions := c.functions.define g }) := by
  obtain ⟨_, hcheck, -⟩ := Except.bind_eq_ok_iff.1 hf.check
  have hname : nameOf (.str f.name) .function = .ok f.name := by
    rw [nameOf, hcheck]
    rfl
  have hname : outcome (liftM (nameOf (.str f.name) .function) : Step α String) c =
      (.ok f.name, c) := by
    rw [hname]
    rfl
  have hparameters : outcome
      (liftM (parametersOf (.arr (f.parameters.map Parameter.toJson))) : Step α _) c =
        (.ok f.parameters, c) := by
    rw [parametersOf, Except.mapM_map_eq_ok hf.parameters]
    rfl
  have hcheck : outcome (liftM (Function.check f.name f.parameters) : Step α Unit) c =
      (.ok (), c) := by
    rw [hf.check]
    rfl
  rw [registerFunction]
  refine (outcome_bind_ok hname).trans ((outcome_bind_ok hparameters).trans ?_)
  refine (outcome_bind_ok hcheck).trans ((outcome_bind_ok (outcome_get c)).trans ?_)
  cases c.read f.bodyText with
  | error fault => rfl
  | ok body => rfl

theorem outcome_registerFunction {f : Function} (hf : f.Sound)
    (ht : Text.trimmed f.bodyText = f.bodyText) (hread : c.read f.bodyText = .ok f.body) :
    outcome (registerFunction (.str f.name) (.arr (f.parameters.map Parameter.toJson)) f.bodyText)
      c = (.ok f, { c with functions := c.functions.define f }) := by
  rw [outcome_registerFunction_text hf, hread, ht]

theorem outcome_loadFunction {f : Function} (hf : f.Sound)
    (ht : Text.trimmed f.bodyText = f.bodyText) (hread : c.read f.bodyText = .ok f.body) :
    outcome (loadFunction (ofFunction f)) c =
      (.ok (), { c with functions := c.functions.define f }) :=
  outcome_discard (outcome_registerFunction hf ht hread)

variable [Scalar α]

theorem outcome_registerOutputUnit {u : OutputUnit α} (hu : u.Sound u.base)
    (hnew : c.outputUnits.get? u.base = none) :
    outcome (registerOutputUnit u.display (pure ⟨u.factor, u.base⟩)) c =
      (.ok u, { c with outputUnits := c.outputUnits.insert u.base u }) := by
  have hpure : Quantity.isPure (⟨u.factor, u.base⟩ : Quantity α) = false := hu.dimension
  have htrue : Quantity.isTrue (⟨u.factor, u.base⟩ : Quantity α) = true := hu.factor
  rw [registerOutputUnit, pure_bind, hpure, htrue]
  refine (outcome_bind_ok (outcome_modify _ c)).trans ?_
  dsimp only
  rw [hnew]
  rfl

/-! ### Entries -/

variable [Portable α]

theorem outcome_loadInputUnit {name : String} (hn : Name.check name .unit = .ok ())
    (hnew : c.isUnit name = false) (q : Quantity α) :
    outcome (loadInputUnit name (ofQuantity q)) c =
      (.ok (), { c with inputUnits := c.inputUnits.insert name q.reloaded }) := by
  rw [loadInputUnit, toQuantity_ofQuantity]
  exact outcome_discard (outcome_registerInputUnit hn hnew q.reloaded)

theorem outcome_loadOutputUnit {u : OutputUnit α} (hu : u.Sound u.base)
    (hnew : c.outputUnits.get? u.base = none) :
    outcome (loadOutputUnit (ofOutputUnit u)) c =
      (.ok (), { c with outputUnits := c.outputUnits.insert u.base u.reloaded }) := by
  have hreloaded : u.reloaded.Sound u.base :=
    { hu with factor := Portable.isTrue_reloaded u.factor hu.factor }
  have hregister : outcome
      (registerOutputUnit u.reloaded.display (pure ⟨u.reloaded.factor, u.reloaded.base⟩)) c =
        (.ok u.reloaded, { c with outputUnits := c.outputUnits.insert u.base u.reloaded }) :=
    outcome_registerOutputUnit hreloaded hnew
  show outcome
    (do
      let factor ← toScalar (Scalar.toJson u.factor)
      let display ← unitsOf (ofUnits u.display)
      let base ← unitsOf (ofUnits u.base)
      discard <| registerOutputUnit display (pure ⟨factor, base⟩) : Step α Unit) c = _
  rw [toScalar_toJson, unitsOf_ofUnits, unitsOf_ofUnits]
  exact outcome_discard hregister

theorem outcome_loadConstant {name : String} {v : Variable α}
    (hn : Name.check name .constant = .ok ()) (hd : v.description ≠ some "") :
    outcome (loadConstant name (ofVariable v)) c =
      (.ok (), { c with constants := c.constants.insert name v.reloaded }) := by
  rw [loadConstant, toVariable_ofVariable hd]
  exact outcome_setConstant hn v.reloaded.value v.description

theorem outcome_loadVariable {name : String} {v : Variable α}
    (hn : Name.check name .variable = .ok ()) (hd : v.description ≠ some "") :
    outcome (loadVariable name (ofVariable v)) c =
      (.ok (), { c with globals := c.globals.insert name v.reloaded }) := by
  rw [loadVariable, toVariable_ofVariable hd]
  exact outcome_setVariable hn v.reloaded.value v.description

/-! ### Parts -/

/-- What a snapshot holds under its second name. -/
def bodyOf (c : Calculator α) : List (String × Json) := [
  ("input_units", ofTable ofQuantity c.inputUnits),
  ("output_units", .arr (c.outputUnits.values.map ofOutputUnit)),
  ("constants", ofTable ofVariable c.constants),
  ("variables", .obj (c.namedVariables.map fun e => (memberName e.1, ofVariable e.2))),
  ("user_functions", .arr (c.functions.values.map ofFunction)),
  ("settings", .obj c.settings.toMembers)]

omit [Portable α] in
theorem header_ofCalculator (c : Calculator α) :
    header (ofCalculator c) = .ok ⟨bodyOf c, Scalar.kind α, c.settings.toMembers⟩ := by
  have hkind : ∀ kind : ScalarKind, kindOf (some (.str kind.name)) = .ok kind := by
    intro kind
    have hname : ScalarKind.ofName kind.name = .ok kind := by
      cases kind <;> decide +kernel
    rw [kindOf, hname]
  have hsettings : unknownSettings c.settings.toMembers = [] := by
    simp [unknownSettings, Settings.toMembers, Settings.set?]
  have hbody : (ofCalculator c).get? "workspace" = some (.obj (bodyOf c)) := rfl
  have hscalar : (ofCalculator c).get? "scalar" = some (.str (Scalar.kind α).name) := rfl
  have hpart : objectPart (bodyOf c) "settings" = .ok c.settings.toMembers := rfl
  rw [header, hbody]
  dsimp only
  rw [hscalar, hkind, hpart, Except.ok_bind, Except.ok_bind, hsettings]
  rfl

omit [Portable α] in
/-- What is under no text is under no valid name. -/
theorem namedVariables_eq (hc : c.Sound) (hs : c.Storable) :
    c.namedVariables = c.globals.toList.map fun e => (.str e.1, e.2) := by
  have hnone : c.answers = [] := by
    refine List.eq_nil_iff_forall_not_mem.2 fun e he => ?_
    obtain ⟨name, hname⟩ := hs.names e (List.mem_append_right _ he)
    have hstr := hc.answers e he
    cases hv : e.1 with
    | str s => exact hstr s hv
    | _ =>
      rw [hv] at hname
      cases hname
  rw [namedVariables, hnone, List.append_nil]

omit [Portable α] in
theorem check_of_nameOf {s name : String} {role : NameRole} (h : nameOf (.str s) role = .ok name) :
    Name.check s role = .ok () := by
  obtain ⟨_, hcheck, -⟩ := Except.bind_eq_ok_iff.1 h
  exact hcheck

variable (c₀ : Calculator α)

theorem outcome_inputUnits (hc : c.Sound) :
    outcome ((c.inputUnits.toList.map fun e => (e.1, ofQuantity e.2)).forM
      fun e => loadInputUnit e.1 e.2) { c₀ with inputUnits := .empty } =
        (.ok (), { c₀ with inputUnits := c.inputUnits.mapValues Quantity.reloaded }) := by
  refine outcome_forM_table (fun t => { c₀ with inputUnits := t }) fun e he t hnew => ?_
  exact outcome_loadInputUnit (hc.inputUnits e he) (Table.contains_eq_false_iff.2 hnew) e.2

theorem outcome_outputUnits (hc : c.Sound) :
    outcome ((c.outputUnits.values.map ofOutputUnit).forM loadOutputUnit)
      { c₀ with outputUnits := .empty } =
        (.ok (), { c₀ with outputUnits := c.outputUnits.mapValues OutputUnit.reloaded }) := by
  rw [Table.values, List.map_map]
  refine outcome_forM_table (fun t => { c₀ with outputUnits := t }) fun e he t hnew => ?_
  have hsound := hc.outputUnits e he
  have hu : e.2.Sound e.2.base := { hsound with base := rfl }
  rw [← hsound.base] at hnew ⊢
  refine outcome_loadOutputUnit hu ?_
  simpa [Table.contains] using Table.contains_eq_false_iff.2 hnew

theorem outcome_constants (hc : c.Sound) (hs : c.Storable) :
    outcome ((c.constants.toList.map fun e => (e.1, ofVariable e.2)).forM
      fun e => loadConstant e.1 e.2) { c₀ with constants := .empty } =
        (.ok (), { c₀ with constants := c.constants.mapValues Variable.reloaded }) := by
  refine outcome_forM_table (fun t => { c₀ with constants := t }) fun e he t _ => ?_
  exact outcome_loadConstant (hc.constants e he) (hs.constants e he)

theorem outcome_variables (hc : c.Sound) (hs : c.Storable) :
    outcome ((c.namedVariables.map fun e => (memberName e.1, ofVariable e.2)).forM
      fun e => loadVariable e.1 e.2) { c₀ with globals := .empty } =
        (.ok (), { c₀ with globals := c.globals.mapValues Variable.reloaded }) := by
  have hnamed := namedVariables_eq hc hs
  rw [hnamed, List.map_map]
  refine outcome_forM_table (fun t => { c₀ with globals := t }) fun e he t _ => ?_
  have hmem : (.str e.1, e.2) ∈ c.namedVariables := by
    rw [hnamed]
    exact List.mem_map.2 ⟨e, he, rfl⟩
  obtain ⟨name, hname⟩ := hs.names _ hmem
  exact outcome_loadVariable (check_of_nameOf hname) (hs.descriptions _ hmem)

omit [Scalar α] [Portable α] in
/-- A function that is read again from its text has its text trimmed. -/
theorem trimmed_of_read {f : Function} (hf : f.Sound)
    (h : c.read (Text.trimmed f.bodyText) = .ok f.body) :
    Text.trimmed f.bodyText = f.bodyText := by
  rcases hf.bodyText with ht | ht
  · exact ht
  · obtain ⟨marks, -, hread⟩ := read_eq_ok_iff.1 h
    rw [ht] at hread ⊢
    exact Expr.trimmed_of_content hread

omit [Portable α] in
theorem outcome_functions (hc : c.Sound) (hs : c.Storable) (hread : c₀.read = c.read) :
    outcome ((c.functions.values.map ofFunction).forM loadFunction)
      { c₀ with functions := .empty } = (.ok (), { c₀ with functions := c.functions }) := by
  have hid : c.functions = c.functions.mapValues id := Table.ext_entries (by simp [Table.mapValues])
  rw [Table.values, List.map_map]
  conv => rhs; rw [hid]
  refine outcome_forM_table (fun t => { c₀ with functions := t }) fun e he t _ => ?_
  obtain ⟨hkey, hf⟩ := hc.functions e he
  have hbody := hs.bodies e he
  have htrim := trimmed_of_read hf hbody
  rw [htrim, ← hread] at hbody
  rw [hkey]
  exact outcome_loadFunction hf htrim hbody

/-! ### Calculators -/

/-- **All parts of a snapshot load,** into the calculator that it gives back. -/
theorem outcome_loadParts (hc : c.Sound) (hs : c.Storable) :
    outcome (loadParts (bodyOf c))
      { settings := c.settings, builtins := Builtin.ofKind (Scalar.kind α) } =
        (.ok (), c.reloaded) := by
  let c₁ : Calculator α :=
    { settings := c.settings, builtins := Builtin.ofKind (Scalar.kind α)
      inputUnits := c.inputUnits.mapValues Quantity.reloaded }
  let c₂ : Calculator α := { c₁ with outputUnits := c.outputUnits.mapValues OutputUnit.reloaded }
  let c₃ : Calculator α := { c₂ with constants := c.constants.mapValues Variable.reloaded }
  let c₄ : Calculator α := { c₃ with globals := c.globals.mapValues Variable.reloaded }
  have hread : c₄.read = c.read := by
    have hunit : c₄.isUnit = c.isUnit := funext fun word => Table.contains_mapValues _ _ word
    funext text
    rw [Calculator.read, Calculator.read, hunit]
  rw [loadParts]
  refine (outcome_bind_ok rfl).trans ((outcome_bind_ok (outcome_inputUnits c₁ hc)).trans ?_)
  refine (outcome_bind_ok rfl).trans ((outcome_bind_ok (outcome_outputUnits c₂ hc)).trans ?_)
  refine (outcome_bind_ok rfl).trans ((outcome_bind_ok (outcome_constants c₃ hc hs)).trans ?_)
  refine (outcome_bind_ok rfl).trans ((outcome_bind_ok (outcome_variables c₄ hc hs)).trans ?_)
  exact (outcome_bind_ok rfl).trans (outcome_functions c₄ hc hs hread)

theorem outcome_loadBody (hc : c.Sound) (hs : c.Storable) :
    outcome (loadBody (bodyOf c))
      { settings := c.settings, builtins := Builtin.ofKind (Scalar.kind α) } =
        (.ok (), c.reloaded) := by
  rw [loadBody, outcome_tryCatch, outcome_loadParts hc hs]

omit [Portable α] in
theorem start_toMembers (hs : c.settings.check = .ok ()) :
    (start c.settings.toMembers : Except SnapshotError (Calculator α)) =
      .ok { settings := c.settings, builtins := Builtin.ofKind (Scalar.kind α) } := by
  have hmembers : (Settings.ofMembers? c.settings.toMembers).getD {} = c.settings := by
    simp [Settings.ofMembers?, Settings.toMembers, Settings.set?]
  have hcreate : Calculator.create (α := α) c.settings = .ok { settings := c.settings } := by
    rw [create, hs]
    rfl
  rw [Snapshot.start, hmembers, hcreate]
  rfl

theorem loadNew_header (hc : c.Sound) (hs : c.Storable) :
    loadNew ⟨bodyOf c, Scalar.kind α, c.settings.toMembers⟩ = .ok c.reloaded := by
  let c₀ : Calculator α := { settings := c.settings, builtins := Builtin.ofKind (Scalar.kind α) }
  have hbody : (loadBody (bodyOf c)).run.run c₀ = (.ok (), c.reloaded) := outcome_loadBody hc hs
  refine Except.bind_eq_ok_iff.2 ⟨c₀, Except.mapError_eq_ok_iff.2 (start_toMembers hs.settings), ?_⟩
  dsimp only
  rw [hbody]
  rfl

end Snapshot

/-- What a snapshot gives back of a calculator of either kind. -/
def AnyCalculator.reloaded : AnyCalculator → AnyCalculator
  | real c => real c.reloaded
  | complex c => complex c.reloaded

/-- **A snapshot gives a calculator back:** the same kind, settings, names, descriptions, units
and functions in the same order, and scalars as their JSON values stand for. -/
theorem Snapshot.load_ofCalculator (w : AnyCalculator) (hr : w.get fun c => c.Reachable)
    (hs : w.get fun c => c.Storable) : load (w.get ofCalculator) = .ok w.reloaded := by
  cases w with
  | real c =>
    have hr : c.Reachable := hr
    let h : Header := ⟨bodyOf c, .real, c.settings.toMembers⟩
    have hnew : loadNew h = .ok c.reloaded := loadNew_header hr.sound hs
    show load (ofCalculator c) = _
    rw [load, header_ofCalculator]
    show (do return AnyCalculator.real (← loadNew h)) = _
    rw [hnew]
    rfl
  | complex c =>
    have hr : c.Reachable := hr
    let h : Header := ⟨bodyOf c, .complex, c.settings.toMembers⟩
    have hnew : loadNew h = .ok c.reloaded := loadNew_header hr.sound hs
    show load (ofCalculator c) = _
    rw [load, header_ofCalculator]
    show (do return AnyCalculator.complex (← loadNew h)) = _
    rw [hnew]
    rfl

/-! ### A calculator with lengths -/

namespace Calculator

/-- The body `y * 2 m`. -/
def areaBody : Expr :=
  .binary .multiply (.name "y") (.binary .multiply (.scalar "2") (.unit "m") "2 m") "y * 2 m"

/-- A calculator with a unit, a variable with a description, and a function with the unit in its
body. -/
def lengths (x : Float) : Calculator Float where
  globals := Table.empty.insert "x" ⟨⟨x, .ofSymbol "m"⟩, some "A length."⟩
  inputUnits := Table.empty.insert "m" ⟨x, .ofSymbol "m"⟩
  functions := Functions.define .empty ⟨"area", [.name "y"], areaBody, "y * 2 m"⟩
  builtins := Builtin.ofKind .real

theorem read_area {c : Calculator Float} {x : Float} (hs : c.settings = {})
    (hu : c.inputUnits = Table.empty.insert "m" ⟨x, .ofSymbol "m"⟩) :
    c.read "y * 2 m" = .ok areaBody := by
  have hunit : c.isUnit = fun word => decide ("m" = word) := by
    funext word
    rw [isUnit, hu, Table.contains, Table.get?_insert]
    by_cases h : "m" = word
    · simp [h]
    · simp [h]
  rw [read_eq_ok_iff, hunit, hs]
  exact ⟨.standard, by decide +kernel, by decide +kernel⟩

theorem trimmed_area : Text.trimmed "y * 2 m" = "y * 2 m" := by decide +kernel

theorem check_default : ({} : Settings).check = .ok () := by decide +kernel

theorem built_lengths (x : Float) : (lengths x).Built := by
  have harea : Function.Sound ⟨"area", [.name "y"], areaBody, "y * 2 m"⟩ :=
    { check := by decide +kernel
      parameters := fun p hp => by
        obtain rfl := List.mem_singleton.1 hp
        rfl
      bodyText := .inr rfl }
  have hfunction := Snapshot.outcome_registerFunction harea trimmed_area
    (read_area (c := { lengths x with functions := .empty }) rfl rfl)
  have h₁ := Built.after (.registerInputUnit "m" ⟨.real x, .ofSymbol "m"⟩) trivial built_fresh <|
    outcome_discard (Snapshot.outcome_registerInputUnit (by decide +kernel) rfl _)
  have h₂ := Built.after (.setVariable "x" ⟨.real x, .ofSymbol "m"⟩ "A length.") trivial h₁ <|
    Snapshot.outcome_setVariable (by decide +kernel) _ _
  exact Built.after (.registerFunction (.str "area") (.arr [.str "y"]) "y * 2 m") trivial h₂
    (outcome_discard hfunction)

theorem storable_lengths (x : Float) : (lengths x).Storable where
  settings := check_default
  names := by
    intro e he
    obtain rfl := List.mem_singleton.1 he
    have hname : nameOf (.str "x") .variable = .ok "x" := by decide +kernel
    exact ⟨"x", hname⟩
  descriptions := by
    intro e he
    obtain rfl := List.mem_singleton.1 he
    have hdescription : some "A length." ≠ some "" := by decide
    exact hdescription
  constants := Table.forall_empty
  bodies := by
    intro e he
    obtain rfl := List.mem_singleton.1 he
    exact trimmed_area ▸ read_area rfl rfl

end Calculator

/-- The lengths come back from their snapshot. -/
theorem Snapshot.load_lengths :
    load (AnyCalculator.get (.real (Calculator.lengths 2.5)) ofCalculator) =
      .ok (.real (Calculator.lengths 2.5).reloaded) :=
  load_ofCalculator (.real (Calculator.lengths 2.5)) (Calculator.built_lengths 2.5).reachable
    (Calculator.storable_lengths 2.5)

end QuantityCalculus
