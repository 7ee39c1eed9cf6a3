/-
# Loading into a calculator

A snapshot that loads into a calculator is laid over it: each part fills its table with what its
entries stand for, in their order, so of several entries for one key the last one stays, and what
the snapshot does not mention is left alone. What an entry stands for does not depend on the tables,
but for the bodies of functions, which are read with the input units that there are by then. These
are the same when the snapshot is loaded again, so that loading it again finds every key bound as it
would bind it.

**Main statements.** `exists_holds_of_loadParts` and `Holds.loadParts`: the parts of a snapshot load
exactly if all their entries stand for something; `loadInto_overlays`: what loading into a
calculator leaves, and that loading again leaves it so.
-/

import QuantityCalculus.Proofs.Calculator.OutputUnits
import QuantityCalculus.Proofs.Snapshot.Load
import QuantityCalculus.Proofs.Snapshot.Validation

namespace QuantityCalculus

variable {α : Type}

namespace Snapshot

open Calculator

/-! ### What entries stand for -/

/-- What the parts of a snapshot bind, in order. -/
structure Entries (α : Type) where
  inputUnits : List (String × Quantity α)
  outputUnits : List (Units × OutputUnit α)
  constants : List (String × Variable α)
  globals : List (String × Variable α)
  functions : List ((String × Nat) × Function)

section

variable [Scalar α]

/-- A member stands for an input unit. -/
structure IsInputUnit (m : String × Json) (e : String × Quantity α) : Prop where
  name : e.1 = m.1
  check : Name.check m.1 .unit = .ok ()
  value : toQuantity m.2 = .ok e.2

/-- A member stands for a constant or a variable. -/
structure IsVariable (role : NameRole) (m : String × Json) (e : String × Variable α) : Prop where
  name : e.1 = m.1
  check : Name.check m.1 role = .ok ()
  value : toVariable m.2 = .ok e.2

/-- An item stands for an output unit, which is for its own base. -/
structure IsOutputUnit (raw : Json) (e : Units × OutputUnit α) : Prop where
  key : e.1 = e.2.base
  factor : ∃ s, raw.get? "s" = some s ∧ toScalar s = .ok e.2.factor
  display : ∃ o, raw.get? "o" = some o ∧ unitsOf o = .ok e.2.display
  base : ∃ b, raw.get? "b" = some b ∧ unitsOf b = .ok e.2.base
  dimension : (⟨e.2.factor, e.2.base⟩ : Quantity α).isPure = false
  isTrue : (⟨e.2.factor, e.2.base⟩ : Quantity α).isTrue = true

end

/-- An item stands for a function, whose body is read from its text. -/
structure IsFunction (read : String → Except Fault Expr) (raw : Json)
    (e : (String × Nat) × Function) : Prop where
  key : e.1 = (e.2.name, e.2.arity)
  name : nameOf ((raw.get? "n").getD (.str "")) .function = .ok e.2.name
  parameters : parametersOf ((raw.get? "arg").getD (.arr [])) = .ok e.2.parameters
  check : Function.check e.2.name e.2.parameters = .ok ()
  body : ∃ text, raw.get? "b" = some (.str text) ∧ read text = .ok e.2.body ∧
    e.2.bodyText = Text.trimmed text

/-- The entries of a snapshot's body, in order, where functions are read in some way. -/
structure Holds [Scalar α] (body : List (String × Json)) (read : String → Except Fault Expr)
    (es : Entries α) : Prop where
  inputUnits : ∃ members, objectPart body "input_units" = .ok members ∧
    List.Forall₂ IsInputUnit members es.inputUnits
  outputUnits : ∃ items, listPart body "output_units" = .ok items ∧
    List.Forall₂ IsOutputUnit items es.outputUnits
  constants : ∃ members, objectPart body "constants" = .ok members ∧
    List.Forall₂ (IsVariable .constant) members es.constants
  globals : ∃ members, objectPart body "variables" = .ok members ∧
    List.Forall₂ (IsVariable .variable) members es.globals
  functions : ∃ items, listPart body "user_functions" = .ok items ∧
    List.Forall₂ (IsFunction read) items es.functions

/-! ### Steps that fill a table -/

/-- A step for each item of a part puts what the item stands for into a table, and fails if it
stands for nothing. -/
structure Fills {ι κ β : Type} [DecidableEq κ] (put : Table κ β → List Event → Calculator α)
    (step : ι → Step α Unit) (R : ι → κ × β → Prop) : Prop where
  puts : ∀ {x e} t journal, R x e →
    ∃ journal', outcome (step x) (put t journal) = (.ok (), put (t.insert e.1 e.2) journal')
  stands : ∀ {x} t journal, (outcome (step x) (put t journal)).1 = .ok () → ∃ e, R x e

/-- The items of a part, one after the other. -/
def loadSection {ι : Type} (part : Except SnapshotError (List ι)) (step : ι → Step α Unit) :
    Step α Unit := do
  (← part).forM step

namespace Fills

variable {ι κ β : Type} [DecidableEq κ] {put : Table κ β → List Event → Calculator α}
  {step : ι → Step α Unit} {R : ι → κ × β → Prop} {part : Except SnapshotError (List ι)}
  {xs : List ι} {es : List (κ × β)}

theorem forM (h : Fills put step R) (hes : List.Forall₂ R xs es) (t : Table κ β)
    (journal : List Event) :
    ∃ journal', outcome (xs.forM step) (put t journal) =
      (.ok (), put (t.insertAll es) journal') := by
  induction hes generalizing t journal with
  | nil => exact ⟨journal, rfl⟩
  | @cons x e xs es hx _ ih =>
    obtain ⟨journal₁, hfirst⟩ := h.puts t journal hx
    obtain ⟨journal₂, hrest⟩ := ih (t.insert e.1 e.2) journal₁
    exact ⟨journal₂, (outcome_bind_ok hfirst).trans hrest⟩

theorem exists_of_forM (h : Fills put step R) {t : Table κ β} {journal : List Event}
    (hok : (outcome (xs.forM step) (put t journal)).1 = .ok ()) : ∃ es, List.Forall₂ R xs es := by
  induction xs generalizing t journal with
  | nil => exact ⟨[], .nil⟩
  | cons x xs ih =>
    obtain ⟨_, hfirst, hrest⟩ := ok_bind_iff.1 hok
    obtain ⟨e, he⟩ := h.stands t journal hfirst
    obtain ⟨journal₁, hput⟩ := h.puts t journal he
    rw [hput] at hrest
    obtain ⟨es, hes⟩ := ih hrest
    exact ⟨e :: es, .cons he hes⟩

/-- **A part fills its table** with what its items stand for. -/
theorem outcome_loadSection (h : Fills put step R) (hpart : part = .ok xs)
    (hes : List.Forall₂ R xs es) (t : Table κ β) (journal : List Event) :
    ∃ journal', outcome (loadSection part step) (put t journal) =
      (.ok (), put (t.insertAll es) journal') := by
  subst hpart
  exact h.forM hes t journal

/-- A part that loads has items that stand for something, and this has filled its table. -/
theorem of_loadSection (h : Fills put step R) {t : Table κ β} {journal : List Event}
    (hok : (outcome (loadSection part step) (put t journal)).1 = .ok ()) :
    ∃ xs es journal', part = .ok xs ∧ List.Forall₂ R xs es ∧
      outcome (loadSection part step) (put t journal) =
        (.ok (), put (t.insertAll es) journal') := by
  obtain ⟨xs, hpart, hforM⟩ := ok_bind_iff.1 hok
  have hpart : part = .ok xs := Except.mapError_eq_ok_iff.1 (Except.mapError_eq_ok_iff.1 hpart)
  obtain ⟨es, hes⟩ := h.exists_of_forM hforM
  obtain ⟨journal', hfilled⟩ := h.outcome_loadSection hpart hes t journal
  exact ⟨xs, es, journal', hpart, hes, hfilled⟩

end Fills

/-! ### The parts of a snapshot -/

theorem checkName_eq_ok {c : Calculator α} {name : String} {role : NameRole}
    (h : (outcome (checkName name role : Step α Unit) c).1 = .ok ()) :
    Name.check name role = .ok () :=
  Except.mapError_eq_ok_iff.1 (Except.mapError_eq_ok_iff.1 h)

/-- A value that is computed without a change is registered, whatever the name stood for. -/
theorem outcome_registerInputUnit_again {name : String} (hn : Name.check name .unit = .ok ())
    {value : Step α (Quantity α)} {q : Quantity α} {c : Calculator α}
    (hvalue : outcome value c = (.ok q, c)) :
    ∃ journal, outcome (registerInputUnit name value) c =
      (.ok q, { c with inputUnits := c.inputUnits.insert name q, journal }) := by
  have hregister : outcome (registerInputUnit name value) c = (.ok q,
      let c' := if c.isUnit name = true then c.record (.unitReplaced name) else c
      { c' with inputUnits := c'.inputUnits.insert name q }) :=
    (outcome_bind_ok (outcome_checkName hn c)).trans ((outcome_bind_ok hvalue).trans rfl)
  rw [hregister]
  cases c.isUnit name with
  | true => exact ⟨_, rfl⟩
  | false => exact ⟨_, rfl⟩

theorem outcome_registerOutputUnit_again [Scalar α] {u : OutputUnit α}
    (hdimension : (⟨u.factor, u.base⟩ : Quantity α).isPure = false)
    (htrue : (⟨u.factor, u.base⟩ : Quantity α).isTrue = true) (c : Calculator α) :
    ∃ journal, outcome (registerOutputUnit u.display (pure ⟨u.factor, u.base⟩)) c =
      (.ok u, { c with outputUnits := c.outputUnits.insert u.base u, journal }) := by
  rw [registerOutputUnit, pure_bind, hdimension, htrue]
  cases hprevious : c.outputUnits.get? u.base with
  | none =>
    refine ⟨c.journal, (outcome_bind_ok (outcome_modify _ c)).trans ?_⟩
    rw [hprevious]
    rfl
  | some previous =>
    by_cases hsame : previous.display = u.display
    · refine ⟨c.journal, (outcome_bind_ok (outcome_modify _ c)).trans ?_⟩
      simp only [hprevious, hsame]
      rfl
    · refine ⟨(c.record (.outputReplaced u.display previous.display u.base)).journal,
        (outcome_bind_ok (outcome_modify _ c)).trans ?_⟩
      simp only [hprevious, hsame]
      rfl

/-- A registered output unit has a dimension and a factor other than zero. -/
theorem registerOutputUnit_eq_ok [Scalar α] {display : Units} {q : Quantity α} {c : Calculator α}
    {u : OutputUnit α} (h : (outcome (registerOutputUnit display (pure q)) c).1 = .ok u) :
    q.isPure = false ∧ q.isTrue = true := by
  rw [registerOutputUnit, pure_bind] at h
  cases hpure : q.isPure with
  | true =>
    rw [hpure] at h
    cases h
  | false =>
    cases htrue : q.isTrue with
    | true => exact ⟨rfl, rfl⟩
    | false =>
      rw [hpure, htrue] at h
      cases h

theorem outcome_registerFunction_again {c : Calculator α} {f : Function} {n ps : Json}
    {text : String} (hname : nameOf n .function = .ok f.name)
    (hparameters : parametersOf ps = .ok f.parameters)
    (hcheck : Function.check f.name f.parameters = .ok ()) (hbody : c.read text = .ok f.body)
    (htext : f.bodyText = Text.trimmed text) :
    outcome (registerFunction n ps text) c =
      (.ok f, { c with functions := c.functions.insert (f.name, f.arity) f }) := by
  obtain ⟨name, parameters, body, bodyText⟩ := f
  dsimp only at hname hparameters hcheck hbody htext
  subst htext
  rw [registerFunction, hname]
  refine (outcome_bind_ok rfl).trans ?_
  rw [hparameters]
  refine (outcome_bind_ok rfl).trans ?_
  rw [hcheck]
  refine (outcome_bind_ok rfl).trans ?_
  refine (outcome_bind_ok (outcome_get c)).trans ?_
  rw [hbody]
  exact (outcome_bind_ok rfl).trans rfl

section

variable [Scalar α] (c : Calculator α)

theorem fills_inputUnits : Fills (fun t journal => { c with inputUnits := t, journal })
    (fun m : String × Json => loadInputUnit m.1 m.2) IsInputUnit where
  puts {m e} t journal h := by
    obtain ⟨hname, hcheck, hvalue⟩ := h
    have hpure : outcome (pure e.2 : Step α (Quantity α)) { c with inputUnits := t, journal } =
        (.ok e.2, { c with inputUnits := t, journal }) := rfl
    obtain ⟨journal', hregister⟩ := outcome_registerInputUnit_again hcheck hpure
    rw [loadInputUnit, hvalue, hname]
    exact ⟨journal', outcome_discard hregister⟩
  stands {m} t journal h := by
    obtain ⟨q, hq, h⟩ := ok_bind_iff.1 h
    obtain ⟨_, h, -⟩ := ok_bind_iff.1 h
    obtain ⟨_, hcheck, -⟩ := ok_bind_iff.1 h
    exact ⟨(m.1, q), rfl, checkName_eq_ok hcheck, hq⟩

theorem fills_constants : Fills (fun t journal => { c with constants := t, journal })
    (fun m : String × Json => loadConstant m.1 m.2) (IsVariable .constant) where
  puts {m e} t journal h := by
    obtain ⟨hname, hcheck, hvalue⟩ := h
    rw [loadConstant, hvalue, hname]
    exact ⟨journal, outcome_setConstant hcheck e.2.value e.2.description⟩
  stands {m} t journal h := by
    obtain ⟨v, hv, h⟩ := ok_bind_iff.1 h
    obtain ⟨_, hcheck, -⟩ := ok_bind_iff.1 h
    exact ⟨(m.1, v), rfl, checkName_eq_ok hcheck, hv⟩

theorem fills_globals : Fills (fun t journal => { c with globals := t, journal })
    (fun m : String × Json => loadVariable m.1 m.2) (IsVariable .variable) where
  puts {m e} t journal h := by
    obtain ⟨hname, hcheck, hvalue⟩ := h
    rw [loadVariable, hvalue, hname]
    exact ⟨journal, outcome_setVariable hcheck e.2.value e.2.description⟩
  stands {m} t journal h := by
    obtain ⟨v, hv, h⟩ := ok_bind_iff.1 h
    obtain ⟨_, hcheck, -⟩ := ok_bind_iff.1 h
    exact ⟨(m.1, v), rfl, checkName_eq_ok hcheck, hv⟩

theorem fills_outputUnits : Fills (fun t journal => { c with outputUnits := t, journal })
    (loadOutputUnit (α := α)) IsOutputUnit where
  puts {raw e} t journal h := by
    obtain ⟨hkey, ⟨s, hs, hfactor⟩, ⟨o, ho, hdisplay⟩, ⟨b, hb, hbase⟩, hdimension, htrue⟩ := h
    obtain ⟨journal', hregister⟩ := outcome_registerOutputUnit_again hdimension htrue
      { c with outputUnits := t, journal }
    rw [loadOutputUnit, ho, hb, hs]
    dsimp only
    rw [hfactor, hdisplay, hbase, hkey]
    exact ⟨journal', outcome_discard hregister⟩
  stands {raw} t journal h := by
    unfold loadOutputUnit at h
    split at h
    · rename_i o b s ho hb hs
      obtain ⟨factor, hfactor, h⟩ := ok_bind_iff.1 h
      obtain ⟨display, hdisplay, h⟩ := ok_bind_iff.1 h
      obtain ⟨base, hbase, h⟩ := ok_bind_iff.1 h
      obtain ⟨_, h, -⟩ := ok_bind_iff.1 h
      obtain ⟨hdimension, htrue⟩ := registerOutputUnit_eq_ok h
      exact ⟨(base, ⟨display, base, factor⟩), rfl, ⟨s, hs, hfactor⟩, ⟨o, ho, hdisplay⟩,
        ⟨b, hb, hbase⟩, hdimension, htrue⟩
    · cases h

omit [Scalar α] in
theorem fills_functions : Fills (fun t journal => { c with functions := t, journal })
    (loadFunction (α := α)) (IsFunction c.read) where
  puts {raw e} t journal h := by
    obtain ⟨hkey, hname, hparameters, hcheck, text, htext, hbody, htrimmed⟩ := h
    have hregister := outcome_registerFunction_again (c := { c with functions := t, journal })
      hname hparameters hcheck hbody htrimmed
    rw [loadFunction, htext, hkey]
    exact ⟨journal, outcome_discard hregister⟩
  stands {raw} t journal h := by
    unfold loadFunction at h
    split at h
    · rename_i text htext
      obtain ⟨_, h, -⟩ := ok_bind_iff.1 h
      obtain ⟨name, hname, h⟩ := ok_bind_iff.1 h
      obtain ⟨parameters, hparameters, h⟩ := ok_bind_iff.1 h
      obtain ⟨_, hcheck, h⟩ := ok_bind_iff.1 h
      obtain ⟨_, hget, h⟩ := ok_bind_iff.1 h
      obtain ⟨body, hbody, -⟩ := ok_bind_iff.1 h
      cases hget
      refine ⟨((name, parameters.length), ⟨name, parameters, body, Text.trimmed text⟩),
        rfl, ?_, hparameters, ?_, text, htext, hbody, rfl⟩
      · exact Except.mapError_eq_ok_iff.1 (Except.mapError_eq_ok_iff.1 hname)
      · exact Except.mapError_eq_ok_iff.1 (Except.mapError_eq_ok_iff.1 hcheck)
    · cases h

/-! ### Whole snapshots -/

/-- How texts are read in a calculator with more input units. -/
def readerWith (units : List (String × Quantity α)) : String → Except Fault Expr :=
  Calculator.read { c with inputUnits := c.inputUnits.insertAll units }

/-- A calculator with the entries of a snapshot. -/
def overlaid (es : Entries α) (journal : List Event) : Calculator α :=
  { c with
    inputUnits := c.inputUnits.insertAll es.inputUnits
    outputUnits := c.outputUnits.insertAll es.outputUnits
    constants := c.constants.insertAll es.constants
    globals := c.globals.insertAll es.globals
    functions := c.functions.insertAll es.functions
    journal }

/-- The parts in order, one section for each. -/
def loadSections (body : List (String × Json)) : Step α Unit := do
  loadSection (objectPart body "input_units") fun m => loadInputUnit m.1 m.2
  loadSection (listPart body "output_units") loadOutputUnit
  loadSection (objectPart body "constants") fun m => loadConstant m.1 m.2
  loadSection (objectPart body "variables") fun m => loadVariable m.1 m.2
  loadSection (listPart body "user_functions") loadFunction

theorem loadParts_eq (body : List (String × Json)) :
    (loadParts body : Step α Unit) = loadSections body := by
  unfold loadParts loadSections loadSection
  simp only [bind_assoc]

variable {c} {body : List (String × Json)} {es : Entries α}

/-- **The parts of a snapshot load** if its entries stand for something, which is there then. -/
theorem Holds.loadParts (h : Holds body (readerWith c es.inputUnits) es) :
    ∃ journal, outcome (loadParts body) c = (.ok (), overlaid c es journal) := by
  obtain ⟨⟨ms₁, hm₁, hes₁⟩, ⟨is₁, hi₁, hes₂⟩, ⟨ms₂, hm₂, hes₃⟩, ⟨ms₃, hm₃, hes₄⟩,
    is₂, hi₂, hes₅⟩ := h
  obtain ⟨j₁, h₁⟩ := (fills_inputUnits c).outcome_loadSection hm₁ hes₁ c.inputUnits c.journal
  let c₁ : Calculator α :=
    { c with inputUnits := c.inputUnits.insertAll es.inputUnits, journal := j₁ }
  obtain ⟨j₂, h₂⟩ := (fills_outputUnits c₁).outcome_loadSection hi₁ hes₂ c.outputUnits j₁
  let c₂ : Calculator α :=
    { c₁ with outputUnits := c.outputUnits.insertAll es.outputUnits, journal := j₂ }
  obtain ⟨j₃, h₃⟩ := (fills_constants c₂).outcome_loadSection hm₂ hes₃ c.constants j₂
  let c₃ : Calculator α :=
    { c₂ with constants := c.constants.insertAll es.constants, journal := j₃ }
  obtain ⟨j₄, h₄⟩ := (fills_globals c₃).outcome_loadSection hm₃ hes₄ c.globals j₃
  let c₄ : Calculator α := { c₃ with globals := c.globals.insertAll es.globals, journal := j₄ }
  obtain ⟨j₅, h₅⟩ := (fills_functions c₄).outcome_loadSection hi₂ hes₅ c.functions j₄
  refine ⟨j₅, ?_⟩
  rw [loadParts_eq, loadSections]
  exact (outcome_bind_ok h₁).trans ((outcome_bind_ok h₂).trans ((outcome_bind_ok h₃).trans
    ((outcome_bind_ok h₄).trans h₅)))

/-- **Parts that load** have entries that stand for something. -/
theorem exists_holds_of_loadParts (hok : (outcome (loadParts body) c).1 = .ok ()) :
    ∃ es : Entries α, Holds body (readerWith c es.inputUnits) es := by
  rw [loadParts_eq, loadSections] at hok
  obtain ⟨⟨⟩, hok₁, hok⟩ := ok_bind_iff.1 hok
  obtain ⟨ms₁, es₁, j₁, hm₁, hes₁, h₁⟩ :=
    (fills_inputUnits c).of_loadSection (t := c.inputUnits) hok₁
  rw [h₁] at hok
  let c₁ : Calculator α := { c with inputUnits := c.inputUnits.insertAll es₁, journal := j₁ }
  obtain ⟨⟨⟩, hok₂, hok⟩ := ok_bind_iff.1 hok
  obtain ⟨is₁, es₂, j₂, hi₁, hes₂, h₂⟩ := (fills_outputUnits c₁).of_loadSection hok₂
  rw [h₂] at hok
  let c₂ : Calculator α := { c₁ with outputUnits := c.outputUnits.insertAll es₂, journal := j₂ }
  obtain ⟨⟨⟩, hok₃, hok⟩ := ok_bind_iff.1 hok
  obtain ⟨ms₂, es₃, j₃, hm₂, hes₃, h₃⟩ := (fills_constants c₂).of_loadSection hok₃
  rw [h₃] at hok
  let c₃ : Calculator α := { c₂ with constants := c.constants.insertAll es₃, journal := j₃ }
  obtain ⟨⟨⟩, hok₄, hok⟩ := ok_bind_iff.1 hok
  obtain ⟨ms₃, es₄, j₄, hm₃, hes₄, h₄⟩ := (fills_globals c₃).of_loadSection hok₄
  rw [h₄] at hok
  let c₄ : Calculator α := { c₃ with globals := c.globals.insertAll es₄, journal := j₄ }
  obtain ⟨is₂, es₅, -, hi₂, hes₅, -⟩ := (fills_functions c₄).of_loadSection hok
  exact ⟨⟨es₁, es₂, es₃, es₄, es₅⟩, ⟨ms₁, hm₁, hes₁⟩, ⟨is₁, hi₁, hes₂⟩, ⟨ms₂, hm₂, hes₃⟩,
    ⟨ms₃, hm₃, hes₄⟩, is₂, hi₂, hes₅⟩

omit [Scalar α] in
/-- Where the entries are laid over a calculator already, texts are read as they were for them. -/
theorem readerWith_overlaid (es : Entries α) (journal : List Event) :
    readerWith (overlaid c es journal) es.inputUnits = readerWith c es.inputUnits := by
  have hunits : (c.inputUnits.insertAll es.inputUnits).insertAll es.inputUnits =
      c.inputUnits.insertAll es.inputUnits := Table.insertAll_insertAll _ _
  rw [readerWith, readerWith, overlaid]
  dsimp only
  rw [hunits]
  rfl

omit [Scalar α] in
/-- Entries that are laid over a calculator once more change nothing but the journal. -/
theorem overlaid_overlaid (es : Entries α) (journal journal' : List Event) :
    overlaid (overlaid c es journal) es journal' = { overlaid c es journal with
      journal := journal' } := by
  simp only [overlaid, Table.insertAll_insertAll]

theorem outcome_loadBody_of_loadParts {c' : Calculator α}
    (h : outcome (loadParts body) c = (.ok (), c')) : outcome (loadBody body) c = (.ok (), c') := by
  rw [loadBody, outcome_tryCatch, h]

/-- A snapshot that loads is one of the calculator's kind, and its parts load. -/
theorem loadInto_eq_ok {data : Json} {c' : Calculator α}
    (h : outcome (loadInto data) c = (.ok (), c')) :
    ∃ hd, header data = .ok hd ∧ hd.kind = Scalar.kind α ∧
      outcome (loadParts hd.body) c = (.ok (), c') := by
  have hok : (outcome (loadInto data) c).1 = .ok () := by rw [h]
  obtain ⟨hd, hheader, hrest⟩ := ok_bind_iff.1 hok
  have hheader : header data = .ok hd := Except.mapError_eq_ok_iff.1 hheader
  have hkind : hd.kind = Scalar.kind α := by
    refine Decidable.byContradiction fun hkind => ?_
    rw [if_neg hkind] at hrest
    cases hrest
  refine ⟨hd, hheader, hkind, ?_⟩
  rw [outcome_loadInto hheader hkind, loadBody, outcome_tryCatch] at h
  revert h
  cases outcome (loadParts hd.body) c with
  | mk r c'' =>
    cases r with
    | ok _ => exact id
    | error fault => exact fun h => by cases h

end

end Snapshot

/-! ### What an overlay leaves -/

/-- A table with pairs laid over another one: their keys have their last values, and other keys
have what they had, in the same order. -/
structure Table.Overlays {κ β : Type} [DecidableEq κ] (es : List (κ × β)) (t t' : Table κ β) :
    Prop where
  bound : ∀ k ∈ es.map Prod.fst, ∃ v, last? k es = some v ∧ t'.get? k = some v
  others : ∀ k, k ∉ es.map Prod.fst → t'.get? k = t.get? k
  order : t.keys <+: t'.keys

theorem Table.overlays_insertAll {κ β : Type} [DecidableEq κ] (es : List (κ × β))
    (t : Table κ β) : Overlays es t (t.insertAll es) where
  bound k hk := by
    obtain ⟨v, hv⟩ := Option.isSome_iff_exists.1 (last?_isSome_iff.2 hk)
    exact ⟨v, hv, by rw [get?_insertAll, hv]; rfl⟩
  others k hk := by
    rw [get?_insertAll, last?_eq_none hk]
    rfl
  order := keys_isPrefix_insertAll t es

namespace Snapshot

open Calculator

/-- A calculator with entries laid over another one. -/
structure Overlaid (es : Entries α) (c c' : Calculator α) : Prop where
  inputUnits : Table.Overlays es.inputUnits c.inputUnits c'.inputUnits
  outputUnits : Table.Overlays es.outputUnits c.outputUnits c'.outputUnits
  constants : Table.Overlays es.constants c.constants c'.constants
  globals : Table.Overlays es.globals c.globals c'.globals
  functions : Table.Overlays es.functions c.functions c'.functions
  answers : c'.answers = c.answers
  settings : c'.settings = c.settings
  builtins : c'.builtins = c.builtins
  diagnostics : c'.diagnostics = c.diagnostics
  room : c'.room = c.room

theorem overlaid_spec (es : Entries α) (c : Calculator α) (journal : List Event) :
    Overlaid es c (overlaid c es journal) where
  inputUnits := Table.overlays_insertAll _ _
  outputUnits := Table.overlays_insertAll _ _
  constants := Table.overlays_insertAll _ _
  globals := Table.overlays_insertAll _ _
  functions := Table.overlays_insertAll _ _
  answers := rfl
  settings := rfl
  builtins := rfl
  diagnostics := rfl
  room := rfl

/-- **Loading into a calculator** lays the entries of the snapshot over it, of several for one key
the last, and leaves everything else alone. Loading the same once more succeeds and leaves
everything as it is, every order included; only the journal may go on. -/
theorem loadInto_overlays [Scalar α] (data : Json) (b b' : Calculator α)
    (h : outcome (loadInto data) b = (.ok (), b')) :
    (∃ es : Entries α, Holds (bodyMembers data) (readerWith b es.inputUnits) es ∧
      Overlaid es b b') ∧
    ∃ journal, outcome (loadInto data) b' = (.ok (), { b' with journal }) := by
  obtain ⟨hd, hheader, hkind, hparts⟩ := loadInto_eq_ok h
  have hok : (outcome (loadParts hd.body) b).1 = .ok () := by rw [hparts]
  obtain ⟨es, hes⟩ := exists_holds_of_loadParts hok
  obtain ⟨journal, hload⟩ := hes.loadParts
  obtain rfl : b' = overlaid b es journal := by
    rw [hparts] at hload
    exact congrArg Prod.snd hload
  have hagain : Holds hd.body (readerWith (overlaid b es journal) es.inputUnits) es := by
    rw [readerWith_overlaid]
    exact hes
  obtain ⟨journal', hreload⟩ := hagain.loadParts
  refine ⟨⟨es, (header_eq_ok hheader).1 ▸ hes, overlaid_spec es b journal⟩, journal', ?_⟩
  rw [outcome_loadInto hheader hkind, outcome_loadBody_of_loadParts hreload, overlaid_overlaid]

/-- A snapshot with two texts for one function and a unit that its second text has. -/
def retold : Json :=
  .obj [("workspace", .obj [
    ("input_units", .obj [("m", .obj [("s", .int 1), ("u", .str "m")])]),
    ("user_functions", .arr [
      .obj [("n", .str "f"), ("arg", .arr [.str "y"]), ("b", .str "y")],
      .obj [("n", .str "f"), ("arg", .arr [.str "y"]), ("b", .str "y m")]])])]

/-- The lengths take such a snapshot with its second text, and a second time nothing changes. -/
theorem loadInto_overlays_retold : ∃ b' journal,
    outcome (loadInto retold) (lengths 2.5) = (.ok (), b') ∧
      (b'.functions.get? ("f", 1)).map Function.bodyText = some "y m" ∧
      outcome (loadInto retold) b' = (.ok (), { b' with journal }) := by
  have hloads : (outcome (loadInto retold) (lengths 2.5)).1.toBool = true := by decide +kernel
  have hload : outcome (loadInto retold) (lengths 2.5) =
      (.ok (), (outcome (loadInto retold) (lengths 2.5)).2) := by
    revert hloads
    cases outcome (loadInto retold) (lengths 2.5) with
    | mk r b' =>
      cases r with
      | ok _ => exact fun _ => rfl
      | error fault => exact fun h => by cases h
  obtain ⟨-, journal, hagain⟩ := loadInto_overlays retold (lengths 2.5) _ hload
  exact ⟨_, journal, hload, by decide +kernel, hagain⟩

end Snapshot
end QuantityCalculus
