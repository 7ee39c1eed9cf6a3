/-
# Output units

A quantity is shown in the output unit of its dimension, if there is one: its scalar is divided by
the factor of the unit. This is a division without a check. It has a result for every quantity, as
all that put a unit into the table have checked its factor: the registrations, the definitions,
and the snapshots, which register what they hold.

To say which unit a dimension is shown in, the operations on a calculator are followed by a log of
what they did to its output units. The last entry about a dimension decides.

**Main statements.** `Operation.outputUnits_step`: one operation leaves what its log says;
`outputUnits_after`: so do any operations one behind the other; `output_units_select`: a quantity
is shown in the unit that was registered last for its dimension, and the division has a result.
-/

import QuantityCalculus.Proofs.Calculator.Built
import QuantityCalculus.Proofs.Scalar.Zero
import QuantityCalculus.Proofs.Snapshot.Validation

namespace QuantityCalculus

variable {α : Type}

/-! ### Logs -/

/-- Something that happens to the output units. -/
inductive OutputChange (α : Type) where
  | registered (u : OutputUnit α)
  | removed (base : Units)
  | cleared

namespace OutputChange

/-- The output units after a change. -/
def apply (t : Table Units (OutputUnit α)) : OutputChange α → Table Units (OutputUnit α)
  | registered u => t.insert u.base u
  | removed base => t.erase base
  | cleared => .empty

/-- The output units after all changes of a log. -/
def replay (t : Table Units (OutputUnit α)) (log : List (OutputChange α)) :
    Table Units (OutputUnit α) :=
  log.foldl apply t

/-- What a change says about a dimension: a unit to show it in, that there is none, or nothing. -/
def about (d : Units) : OutputChange α → Option (Option (OutputUnit α))
  | registered u => if u.base = d then some (some u) else none
  | removed base => if base = d then some none else none
  | cleared => some none

/-- The unit that the last change about a dimension leaves, or the one from before all changes. -/
def latest (before : Option (OutputUnit α)) (d : Units) (log : List (OutputChange α)) :
    Option (OutputUnit α) :=
  (log.reverse.findSome? (about d)).getD before

theorem get?_apply (t : Table Units (OutputUnit α)) (change : OutputChange α) (d : Units) :
    (apply t change).get? d = (change.about d).getD (t.get? d) := by
  cases change with
  | registered u =>
    rw [apply, about, Table.get?_insert]
    split <;> rfl
  | removed base =>
    rw [apply, about, Table.get?_erase]
    split <;> rfl
  | cleared => rfl

theorem replay_append (t : Table Units (OutputUnit α)) (log log' : List (OutputChange α)) :
    replay t (log ++ log') = replay (replay t log) log' :=
  List.foldl_append

/-- **The last change about a dimension decides** what is found under it. -/
theorem get?_replay (t : Table Units (OutputUnit α)) (log : List (OutputChange α)) (d : Units) :
    (replay t log).get? d = latest (t.get? d) d log := by
  induction log generalizing t with
  | nil => rfl
  | cons change log ih =>
    have hcons : replay t (change :: log) = replay (apply t change) log := rfl
    rw [hcons, ih, get?_apply, latest, latest, List.reverse_cons, List.findSome?_append]
    cases log.reverse.findSome? (about d) with
    | some found => rfl
    | none =>
      rw [Option.none_or, List.findSome?_singleton]
      rfl

end OutputChange

/-! ### Steps -/

namespace Calculator

/-- A calculator has some output units. -/
def Showing (t : Table Units (OutputUnit α)) (c : Calculator α) : Prop := c.outputUnits = t

/-- What a registration does to the output units: it registers the unit that it ends with. -/
def changesOfResult : Except Fault (OutputUnit α) → List (OutputChange α)
  | .ok u => [.registered u]
  | .error _ => []

/-- A step that registers the output unit that it ends with, and no other. -/
def Registering (x : Step α (OutputUnit α)) : Prop :=
  ∀ c, (outcome x c).2.outputUnits =
    OutputChange.replay c.outputUnits (changesOfResult (outcome x c).1)

theorem Registering.bind {β : Type} {x : Step α β} {f : β → Step α (OutputUnit α)}
    (hx : ∀ t, Keeps (Showing t) (fun _ => True) x) (hf : ∀ b, Registering (f b)) :
    Registering (x >>= f) := by
  intro c
  have hkept : (outcome x c).2.outputUnits = c.outputUnits := (hx c.outputUnits c rfl).1
  rw [outcome_bind]
  revert hkept
  cases outcome x c with
  | mk r c' =>
    intro (hkept : c'.outputUnits = c.outputUnits)
    cases r with
    | error fault => exact hkept
    | ok b => exact hkept ▸ hf b c'

theorem outputUnits_bind {β γ : Type} {x : Step α β} {f : β → Step α γ}
    (hf : ∀ b t, Keeps (Showing t) (fun _ => True) (f b)) (c : Calculator α) :
    (outcome (x >>= f) c).2.outputUnits = (outcome x c).2.outputUnits := by
  rw [outcome_bind]
  cases outcome x c with
  | mk r c' =>
    cases r with
    | error fault => rfl
    | ok b => exact (hf b _ c' rfl).1

variable [Scalar α] {t : Table Units (OutputUnit α)}

namespace Showing

omit [Scalar α] in
theorem binds : Binds (Showing t) where
  variableSet _ _ hc := hc
  constantSet _ _ hc := hc
  inputUnitSet _ _ hc := hc
  recorded _ hc := hc

theorem evaluates : Evaluates (fun _ => True) (Showing t) where
  part _ _ := trivial
  valueOf _ c hc := by
    rw [outcome_valueOf]
    exact ⟨hc, fun _ _ => trivial⟩
  keepAnswer q := keeps_keepAnswer q (fun _ hc => hc) fun _ hc => hc
  failed _ hc := hc

theorem quantityOf (g : Given) :
    Keeps (Showing t) (fun _ => True) (quantityOf g : Step α (Quantity α)) :=
  evaluates.quantityOf (fun _ => trivial) g

theorem valueOfDefinition (text : String) :
    Keeps (Showing t) (fun _ => True) (valueOfDefinition text : Step α (Quantity α)) :=
  evaluates.valueOfDefinition (fun _ _ => trivial) text

omit [Scalar α] in
theorem registerFunction (name parameters : Json) (body : String) :
    Keeps (Showing t) (fun _ => True) (registerFunction name parameters body : Step α Function) :=
  keeps_registerFunction fun _ _ hs => hs

end Showing

/-- **A registration** registers what it returns. -/
theorem registering_registerOutputUnit (display : Units) {value : Step α (Quantity α)}
    (hv : ∀ t, Keeps (Showing t) (fun _ => True) value) :
    Registering (registerOutputUnit display value) := by
  refine Registering.bind hv fun q c => ?_
  dsimp only
  split
  · rfl
  split
  · rfl
  rw [outcome_bind_ok (outcome_modify _ c)]
  show Calculator.outputUnits _ = c.outputUnits.insert q.units ⟨display, q.units, q.scalar⟩
  split
  · split <;> rfl
  · rfl

theorem registering_defineOutputUnit (display : Units) (text : String) :
    Registering (defineOutputUnit display text : Step α (OutputUnit α)) :=
  Registering.bind (fun _ => Showing.valueOfDefinition text) fun _ =>
    registering_registerOutputUnit display fun _ => Keeps.pure trivial

end Calculator

/-! ### Snapshots -/

namespace Snapshot

open Calculator

variable [Scalar α]

/-- Registers the output unit of an entry. -/
def registerEntry (raw : Json) : Step α (OutputUnit α) := do
  match raw.get? "o", raw.get? "b", raw.get? "s" with
  | some o, some b, some s =>
    let factor ← toScalar s
    let display ← unitsOf o
    let base ← unitsOf b
    registerOutputUnit display (pure ⟨factor, base⟩)
  | _, _, _ => throw (.error (.snapshot (.outputUnit raw)))

theorem loadOutputUnit_eq (raw : Json) :
    (loadOutputUnit raw : Step α Unit) = (registerEntry raw >>= fun _ => pure ()) := by
  unfold loadOutputUnit registerEntry
  rcases raw.get? "o" with _ | o
  · rfl
  rcases raw.get? "b" with _ | b
  · rfl
  rcases raw.get? "s" with _ | s
  · rfl
  simp only [bind_assoc]
  rfl

theorem registering_registerEntry (raw : Json) :
    Registering (registerEntry raw : Step α (OutputUnit α)) := by
  unfold registerEntry
  split
  · refine Registering.bind (fun _ => Keeps.untouched _) fun factor => ?_
    refine Registering.bind (fun _ => Keeps.untouched _) fun display => ?_
    refine Registering.bind (fun _ => Keeps.untouched _) fun base => ?_
    exact registering_registerOutputUnit display fun _ => Keeps.pure trivial
  · exact fun _ => rfl

/-- What entries do to the output units, one behind the other up to the first that fails. -/
def changesOfEntries : List Json → Calculator α → List (OutputChange α)
  | [], _ => []
  | raw :: rest, c =>
    match outcome (registerEntry raw) c with
    | (.ok u, c') => .registered u :: changesOfEntries rest c'
    | (.error _, _) => []

theorem outputUnits_entries (items : List Json) (c : Calculator α) :
    (outcome (items.forM loadOutputUnit) c).2.outputUnits =
      OutputChange.replay c.outputUnits (changesOfEntries items c) := by
  induction items generalizing c with
  | nil => rfl
  | cons raw rest ih =>
    have hraw := registering_registerEntry raw c
    have hload : ((raw :: rest).forM loadOutputUnit : Step α PUnit) =
        (registerEntry raw >>= fun _ => rest.forM loadOutputUnit) := by
      show (loadOutputUnit raw >>= fun _ => rest.forM loadOutputUnit : Step α PUnit) = _
      rw [loadOutputUnit_eq, bind_assoc]
      rfl
    rw [hload, outcome_bind, changesOfEntries]
    revert hraw
    cases outcome (registerEntry raw) c with
    | mk r c' =>
      intro hraw
      cases r with
      | error fault => exact hraw
      | ok u =>
        have hraw : c'.outputUnits = c.outputUnits.insert u.base u := hraw
        rw [ih, hraw]
        rfl

/-- Registers the input units. -/
def loadInputUnits (body : List (String × Json)) : Step α Unit := do
  (← objectPart body "input_units").forM fun e => loadInputUnit e.1 e.2

/-- Binds the constants and variables and registers the functions. -/
def loadNames (body : List (String × Json)) : Step α Unit := do
  (← objectPart body "constants").forM fun e => loadConstant e.1 e.2
  (← objectPart body "variables").forM fun e => loadVariable e.1 e.2
  (← listPart body "user_functions").forM loadFunction

/-- What loading the parts of a snapshot does to the output units. Their part comes behind the
input units, so that nothing happens after a fault there. -/
def changesOfParts (body : List (String × Json)) (c : Calculator α) : List (OutputChange α) :=
  match outcome (loadInputUnits body) c, listPart body "output_units" with
  | (.ok _, c'), .ok items => changesOfEntries items c'
  | _, _ => []

omit [Scalar α] in
theorem keeps_loadFunction_showing {t : Table Units (OutputUnit α)} (raw : Json) :
    Keeps (Showing t) (fun _ => True) (loadFunction raw : Step α Unit) := by
  unfold loadFunction
  split
  · exact (Showing.registerFunction _ _ _).discard
  · exact Keeps.throw _

theorem keeps_loadInputUnits {t : Table Units (OutputUnit α)} (body : List (String × Json)) :
    Keeps (Showing t) (fun _ => True) (loadInputUnits body : Step α Unit) :=
  (Keeps.untouched _).bind fun _ _ =>
    Keeps.forM fun e _ => Showing.binds.loadInputUnit e.1 e.2

theorem keeps_loadNames {t : Table Units (OutputUnit α)} (body : List (String × Json)) :
    Keeps (Showing t) (fun _ => True) (loadNames body : Step α Unit) := by
  refine (Keeps.untouched _).bind fun _ _ => ?_
  refine (Keeps.forM fun e _ => Showing.binds.loadConstant e.1 e.2).bind fun _ _ => ?_
  refine (Keeps.untouched _).bind fun _ _ => ?_
  refine (Keeps.forM fun e _ => Showing.binds.loadVariable e.1 e.2).bind fun _ _ => ?_
  exact (Keeps.untouched _).bind fun _ _ => Keeps.forM fun raw _ => keeps_loadFunction_showing raw

theorem outputUnits_loadParts (body : List (String × Json)) (c : Calculator α) :
    (outcome (loadParts body) c).2.outputUnits =
      OutputChange.replay c.outputUnits (changesOfParts body c) := by
  have hparts : (loadParts body : Step α Unit) =
      (loadInputUnits body >>= fun _ => do
        (← listPart body "output_units").forM loadOutputUnit
        loadNames body) := by
    unfold loadParts loadInputUnits loadNames
    rw [bind_assoc]
  have hinputs := (keeps_loadInputUnits body c rfl).1
  rw [hparts, outcome_bind, changesOfParts]
  revert hinputs
  cases outcome (loadInputUnits body) c with
  | mk r c' =>
    intro (hinputs : c'.outputUnits = c.outputUnits)
    cases r with
    | error fault => exact hinputs
    | ok _ =>
      cases hitems : listPart body "output_units" with
      | error cause => exact hinputs
      | ok items =>
        show (outcome (items.forM loadOutputUnit >>= fun _ => loadNames body) c').2.outputUnits = _
        rw [outputUnits_bind fun _ _ => keeps_loadNames body, outputUnits_entries, hinputs]

/-- What loading a snapshot into a calculator does to the output units. -/
def changesOfData (data : Json) (c : Calculator α) : List (OutputChange α) :=
  match header data with
  | .ok h => if h.kind = Scalar.kind α then changesOfParts h.body c else []
  | .error _ => []

theorem snd_outcome_loadBody (body : List (String × Json)) (c : Calculator α) :
    (outcome (loadBody body) c).2 = (outcome (loadParts body) c).2 := by
  rw [loadBody, outcome_tryCatch]
  cases outcome (loadParts body) c with
  | mk r c' => cases r <;> rfl

theorem outcome_loadInto {data : Json} {h : Header} (hheader : header data = .ok h)
    (hkind : h.kind = Scalar.kind α) (c : Calculator α) :
    outcome (loadInto data) c = outcome (loadBody h.body) c := by
  unfold loadInto
  rw [hheader]
  show outcome (do
    unless h.kind = Scalar.kind α do throw _
    loadBody h.body : Step α Unit) c = _
  rw [if_pos hkind]

/-- **Loading a snapshot into a calculator** leaves what its log says. -/
theorem outputUnits_loadInto (data : Json) (c : Calculator α) :
    (outcome (loadInto data) c).2.outputUnits =
      OutputChange.replay c.outputUnits (changesOfData data c) := by
  unfold changesOfData
  cases hheader : header data with
  | error cause =>
    unfold loadInto
    rw [hheader]
    rfl
  | ok h =>
    dsimp only
    split
    · rename_i hkind
      rw [outcome_loadInto hheader hkind, snd_outcome_loadBody, outputUnits_loadParts]
    · rename_i hkind
      unfold loadInto
      rw [hheader]
      show (outcome (do
        unless h.kind = Scalar.kind α do throw _
        loadBody h.body : Step α Unit) c).2.outputUnits = _
      rw [if_neg hkind]
      rfl

end Snapshot

/-! ### Operations -/

namespace Operation

open Calculator

/-- A unit set is installed by many registrations. -/
def Installs : Operation α → Prop
  | install _ => True
  | _ => False

variable [Scalar α]

/-- What an operation does to the output units of a calculator. -/
def changes (c : Calculator α) : Operation α → List (OutputChange α)
  | registerOutputUnit display value =>
    changesOfResult (outcome (Calculator.registerOutputUnit display (quantityOf value)) c).1
  | defineOutputUnit display text =>
    changesOfResult (outcome (Calculator.defineOutputUnit display text) c).1
  | removeOutputUnit base => [.removed base]
  | load data => Snapshot.changesOfData data c
  | clear => [.cleared]
  | _ => []

/-- **An operation** leaves the output units that its log says. -/
theorem outputUnits_step (c : Calculator α) {op : Operation α} (hop : ¬ op.Installs) :
    (outcome op.step c).2.outputUnits = OutputChange.replay c.outputUnits (op.changes c) := by
  have hbinds : Binds (Showing c.outputUnits) := Showing.binds
  have hevaluates : Evaluates (fun _ => True) (Showing c.outputUnits) := Showing.evaluates
  cases op with
  | evaluate text => exact ((hevaluates.evaluate (fun _ _ => trivial) text).discard c rfl).1
  | resolve e => exact ((hevaluates.resolve trivial).discard c rfl).1
  | setVariable name value description =>
    exact (hbinds.setVariable name (Showing.quantityOf value) description c rfl).1
  | setConstant name value description =>
    exact (hbinds.setConstant name (Showing.quantityOf value) description c rfl).1
  | registerInputUnit name value =>
    exact ((hbinds.registerInputUnit name (Showing.quantityOf value)).discard c rfl).1
  | defineInputUnit name text =>
    exact (((Showing.valueOfDefinition text).bind fun _ _ =>
      hbinds.registerInputUnit name (Keeps.pure trivial)).discard c rfl).1
  | registerOutputUnit display value =>
    exact (congrArg Calculator.outputUnits (snd_outcome_discard _ c)).trans
      (registering_registerOutputUnit display (fun _ => Showing.quantityOf value) c)
  | defineOutputUnit display text =>
    exact (congrArg Calculator.outputUnits (snd_outcome_discard _ c)).trans
      (registering_defineOutputUnit display text c)
  | registerFunction name parameters body =>
    exact ((Showing.registerFunction name parameters body).discard c rfl).1
  | registerTree name parameters body =>
    have hkept : Keeps (Showing c.outputUnits) (fun _ => True)
        (registerTree name parameters body : Operation α).step :=
      (Keeps.untouched _).bind fun _ _ => (Keeps.untouched _).bind fun _ _ =>
        (Keeps.untouched _).bind fun _ _ => Keeps.modify fun _ hc => hc
    exact (hkept c rfl).1
  | load data => exact Snapshot.outputUnits_loadInto data c
  | install set => exact (hop trivial).elim
  | _ => rfl

end Operation

namespace Calculator

variable [Scalar α]

/-- A calculator after operations one behind the other. -/
def after (c : Calculator α) : List (Operation α) → Calculator α
  | [] => c
  | op :: ops => (outcome op.step c).2.after ops

/-- What operations one behind the other do to the output units. -/
def outputLog (c : Calculator α) : List (Operation α) → List (OutputChange α)
  | [] => []
  | op :: ops => op.changes c ++ (outcome op.step c).2.outputLog ops

theorem Reachable.after {c : Calculator α} (h : c.Reachable) (ops : List (Operation α)) :
    (c.after ops).Reachable := by
  induction ops generalizing c with
  | nil => exact h
  | cons op ops ih => exact ih (h.step op)

/-- **Operations one behind the other** leave the output units that their log says. -/
theorem outputUnits_after (c : Calculator α) {ops : List (Operation α)}
    (hops : ∀ op ∈ ops, ¬ op.Installs) :
    (c.after ops).outputUnits = OutputChange.replay c.outputUnits (c.outputLog ops) := by
  induction ops generalizing c with
  | nil => rfl
  | cons op ops ih =>
    obtain ⟨hop, hops⟩ := List.forall_mem_cons.1 hops
    rw [after, ih _ hops, outputLog, OutputChange.replay_append, Operation.outputUnits_step c hop]

/-- The unit that was registered last for a dimension, if it was not taken out again. -/
def lastRegistered (c : Calculator α) (ops : List (Operation α)) (d : Units) :
    Option (OutputUnit α) :=
  OutputChange.latest (c.outputUnits.get? d) d (c.outputLog ops)

/-! ### What is shown -/

/-- A quantity as it is shown: in the output unit of its dimension, or as it is. -/
def displayed (c : Calculator α) (q : Quantity α) : Except Invalid (Quantity α) := do
  return (← c.inOutputUnit? q).getD q

/-- The output units are well formed and those that are expected, and quantities are shown
in them. -/
structure Selects (c : Calculator α) (expected : Units → Option (OutputUnit α)) : Prop where
  /-- units are under their own base -/
  base : ∀ e ∈ c.outputUnits.toList, e.2.base = e.1
  /-- there is at most one for each base -/
  distinct : (c.outputUnits.values.map OutputUnit.base).Nodup
  /-- each base is a dimension -/
  dimension : ∀ u ∈ c.outputUnits.values, u.base.isNone = false
  /-- no factor is a zero, of either sign -/
  factor : ∀ u ∈ c.outputUnits.values, Scalar.eq u.factor Scalar.zero = false
  entries : ∀ d, c.outputUnits.get? d = expected d
  /-- what has no dimension is shown as it is -/
  plain : ∀ q : Quantity α, q.isPure = true → c.displayed q = .ok q
  /-- what has no unit to be shown in is shown as it is -/
  unlisted : ∀ q : Quantity α, expected q.units = none → c.displayed q = .ok q
  /-- anything else is shown in its unit, and the division has a result -/
  shown : ∀ (q : Quantity α) (u : OutputUnit α), q.isPure = false →
    expected q.units = some u →
      ∃ x, Scalar.div q.scalar u.factor = .ok x ∧ c.displayed q = .ok ⟨x, u.display⟩
  /-- so a result has no faults but those of its expression -/
  result : ∀ (e : Expr) (fault : Fault), (outcome (result e) c).1 = .error fault →
    (outcome (valueOf e) c).1 = .error fault

variable [Scalar.Divides α] {c : Calculator α}

/-- The division by a factor has a result. -/
theorem Sound.div_factor (hc : c.Sound) {d : Units} {u : OutputUnit α}
    (hu : c.outputUnits.get? d = some u) (x : α) : ∃ q, Scalar.div x u.factor = .ok q :=
  Scalar.Divides.div_eq_ok x (hc.outputUnits _ (Table.get?_eq_some_iff.1 hu)).factor

theorem Sound.exists_inOutputUnit? (hc : c.Sound) (q : Quantity α) :
    ∃ shown, c.inOutputUnit? q = .ok shown := by
  unfold inOutputUnit?
  split
  · exact ⟨_, rfl⟩
  split
  · exact ⟨_, rfl⟩
  · rename_i u hu
    obtain ⟨x, hx⟩ := hc.div_factor hu q.scalar
    rw [hx]
    exact ⟨_, rfl⟩

/-- **Showing a result does not fail,** so a result has the faults of its expression only. -/
theorem Sound.fault_of_result (hc : c.Sound) {e : Expr} {fault : Fault}
    (h : (outcome (result e) c).1 = .error fault) :
    (outcome (valueOf e) c).1 = .error fault := by
  rcases fault_of_bind h with h | ⟨base, -, h⟩
  · exact h
  have hchange : Change (fun _ => True) c (outcome (valueOf e) c).2 :=
    .evaluated fun _ _ => trivial
  have hsound := hc.change hchange
  generalize (outcome (valueOf e) c).2 = c' at h hsound
  rw [outcome_bind_ok (outcome_get c')] at h
  split at h
  · obtain ⟨shown, hshown⟩ := hsound.exists_inOutputUnit? base
    rw [hshown] at h
    cases h
  · cases h

/-- **A sound calculator selects the output units that it has.** -/
theorem Sound.selects (hc : c.Sound) {expected : Units → Option (OutputUnit α)}
    (h : ∀ d, c.outputUnits.get? d = expected d) : c.Selects expected where
  base e he := (hc.outputUnits e he).base
  distinct := by
    have hbases : c.outputUnits.values.map OutputUnit.base = c.outputUnits.keys := by
      rw [Table.values, Table.keys, List.map_map]
      exact List.map_congr_left fun e he => (hc.outputUnits e he).base
    exact hbases ▸ c.outputUnits.distinct
  dimension u hu := by
    obtain ⟨e, he, rfl⟩ := List.mem_map.1 hu
    exact (hc.outputUnits e he).dimension
  factor u hu := by
    obtain ⟨e, he, rfl⟩ := List.mem_map.1 hu
    have htrue := (hc.outputUnits e he).factor
    rwa [Scalar.isTrue, Bool.not_eq_true'] at htrue
  entries := h
  plain q hq := by
    rw [displayed, inOutputUnit?, if_pos hq]
    rfl
  unlisted q hq := by
    rw [displayed, inOutputUnit?, h, hq]
    split <;> rfl
  shown q u hq hu := by
    obtain ⟨x, hx⟩ := hc.div_factor ((h _).trans hu) q.scalar
    refine ⟨x, hx, ?_⟩
    rw [displayed, inOutputUnit?, if_neg (Bool.eq_false_iff.1 hq), h, hu]
    dsimp only
    rw [hx]
    rfl
  result _ _ := hc.fault_of_result

/-- **What can be reached selects** the units that were registered last. -/
theorem Reachable.selects (hc : c.Reachable) {ops : List (Operation α)}
    (hops : ∀ op ∈ ops, ¬ op.Installs) : (c.after ops).Selects (c.lastRegistered ops) :=
  (hc.after ops).sound.selects fun d => by
    rw [outputUnits_after c hops, OutputChange.get?_replay, lastRegistered]

end Calculator

/-- A calculator from a snapshot is a new one that the snapshot was loaded into. -/
theorem Snapshot.loadNew_eq_after [Scalar α] {data : Json} {h : Header} {c : Calculator α}
    (hheader : header data = .ok h) (hkind : h.kind = Scalar.kind α) (hload : loadNew h = .ok c) :
    ∃ new : Calculator α, new.Reachable ∧ new.outputUnits = .empty ∧
      c = new.after [.load data] := by
  obtain ⟨new, hnew, hbody⟩ := loadNew_eq_ok hload
  obtain ⟨hcheck, rfl⟩ := start_eq_ok hnew
  let settings := (Settings.ofMembers? h.settings).getD {}
  have hcreate : Calculator.create settings = .ok ({ settings } : Calculator α) := by
    rw [Calculator.create, hcheck]
    rfl
  refine ⟨_, (Calculator.Reachable.create hcreate).withBuiltins, rfl, ?_⟩
  have hinto := (outcome_loadInto hheader hkind _).trans hbody
  exact (congrArg Prod.snd hinto).symm

/-- **Output units are selected safely.** Whatever was done to a calculator over either kind of
scalars, its output units are under their own dimensions, which are not none, and their factors
are not zero. So every quantity is shown: in the unit that was registered last for its dimension,
where the scalar is divided by the factor, and as it is if it has no dimension or there is no such
unit. Calculators from snapshots are among these. -/
theorem output_units_select (w : AnyCalculator) :
    (w.get fun {α} _ c => c.Reachable →
      ∀ ops : List (Operation α), (∀ op ∈ ops, ¬ op.Installs) →
        (c.after ops).Selects (c.lastRegistered ops)) ∧
    ∀ data, Snapshot.load data = .ok w → w.get fun {α} _ c =>
      ∃ new : Calculator α, new.Reachable ∧ new.outputUnits = .empty ∧
        c = new.after [.load data] := by
  constructor
  · cases w with
    | real c => exact fun hc ops hops => hc.selects hops
    | complex c => exact fun hc ops hops => hc.selects hops
  · intro data hload
    obtain ⟨h, hheader, hload⟩ := Except.bind_eq_ok_iff.1 hload
    have hheader := Except.mapError_eq_ok_iff.1 hheader
    split at hload
    all_goals
      rename_i hkind
      obtain ⟨c, hc, hload⟩ := Except.bind_eq_ok_iff.1 hload
      cases hload
      exact Snapshot.loadNew_eq_after hheader hkind hc

/-- Seconds are shown in minutes, and then in hours. -/
def minutesThenHours : List (Operation Float) :=
  [.registerOutputUnit (.ofSymbol "min") ⟨.real 60.0, .ofSymbol "s"⟩,
    .registerOutputUnit (.ofSymbol "h") ⟨.real 3600.0, .ofSymbol "s"⟩,
    .removeOutputUnit (.ofSymbol "m")]

/-- Two hours in seconds are shown in hours, the unit that was registered last. -/
theorem output_units_select_hours :
    (Calculator.fresh.after minutesThenHours).displayed ⟨7200.0, .ofSymbol "s"⟩ =
      .ok ⟨2.0, .ofSymbol "h"⟩ := by
  have hops : ∀ op ∈ minutesThenHours, ¬ op.Installs := by
    simp [minutesThenHours, Operation.Installs]
  have hselects : (Calculator.fresh.after minutesThenHours).Selects _ :=
    (output_units_select (.real Calculator.fresh)).1 Calculator.built_fresh.reachable _ hops
  have hlast : Calculator.fresh.lastRegistered minutesThenHours (.ofSymbol "s") =
      some ⟨.ofSymbol "h", .ofSymbol "s", 3600.0⟩ := by
    rfl
  obtain ⟨x, hx, hshown⟩ := hselects.shown ⟨7200.0, .ofSymbol "s"⟩ _ rfl hlast
  have hquotient : (7200.0 / 3600.0 : Float) = 2.0 := by decide +kernel
  have hdiv : Scalar.div (7200.0 : Float) 3600.0 = .ok 2.0 := congrArg Except.ok hquotient
  cases hdiv.symm.trans hx
  exact hshown

end QuantityCalculus
