/-
# Snapshots

A snapshot is a JSON value with everything that was defined in a calculator: the kind of
its scalars, its units, constants, variables and functions, and its settings. Built-in
functions are not part of it.

Loading reads the parts in order and registers what they hold, so an entry replaces the
one of the same name. Into a calculator that exists, what was registered before a fault
stays, and the settings are left alone.
-/

import QuantityCalculus.Calculator.Any
import QuantityCalculus.Calculator.Register
import QuantityCalculus.Json.Bytes
import QuantityCalculus.Json.Write
import QuantityCalculus.Snapshot.Units

namespace QuantityCalculus

namespace Snapshot

open Calculator

/-- A function. -/
def ofFunction (f : Function) : Json :=
  .obj [("n", .str f.name), ("arg", .arr (f.parameters.map Parameter.toJson)),
    ("b", .str f.bodyText)]

section
variable {α : Type} [Scalar α]

/-- An output unit. -/
def ofOutputUnit (u : OutputUnit α) : Json :=
  .obj [("o", ofUnits u.display), ("b", ofUnits u.base), ("s", Scalar.toJson u.factor)]

/-- A table with a value for each name. -/
def ofTable {β : Type} (value : β → Json) (t : Table String β) : Json :=
  .obj (t.toList.map fun e => (e.1, value e.2))

/-- A value as the name of a member: a text as it is, any other value as it is written. -/
def memberName : Json → String
  | .str s => s
  | v => v.write

/-- The snapshot of a calculator. -/
def ofCalculator (c : Calculator α) : Json :=
  .obj [("scalar", .str (Scalar.kind α).name), ("workspace", .obj [
    ("input_units", ofTable ofQuantity c.inputUnits),
    ("output_units", .arr (c.outputUnits.values.map ofOutputUnit)),
    ("constants", ofTable ofVariable c.constants),
    ("variables", .obj (c.namedVariables.map fun e => (memberName e.1, ofVariable e.2))),
    ("user_functions", .arr (c.functions.values.map ofFunction)),
    ("settings", .obj c.settings.toMembers)])]

/-- A part that has to be an object; a missing one is empty. -/
def objectPart (body : List (String × Json)) (name : String) :
    Except SnapshotError (List (String × Json)) :=
  match Json.member? name body with
  | none => .ok []
  | some (.obj members) => .ok members
  | some _ => .error (.part name)

/-- A part that has to be a list; a missing one is empty. -/
def listPart (body : List (String × Json)) (name : String) : Except SnapshotError (List Json) :=
  match Json.member? name body with
  | none => .ok []
  | some (.arr items) => .ok items
  | some _ => .error (.part name)

/-- Registers an input unit. -/
def loadInputUnit (name : String) (raw : Json) : Step α Unit := do
  let q ← toQuantity raw
  discard <| registerInputUnit name (pure q)

/-- Registers an output unit. -/
def loadOutputUnit (raw : Json) : Step α Unit := do
  match raw.get? "o", raw.get? "b", raw.get? "s" with
  | some o, some b, some s =>
    let factor ← toScalar s
    let display ← unitsOf o
    let base ← unitsOf b
    discard <| registerOutputUnit display (pure ⟨factor, base⟩)
  | _, _, _ => throw (.error (.snapshot (.outputUnit raw)))

/-- Binds a constant. -/
def loadConstant (name : String) (raw : Json) : Step α Unit := do
  let v ← toVariable raw
  setConstant name (pure v.value) v.description

/-- Binds a variable. -/
def loadVariable (name : String) (raw : Json) : Step α Unit := do
  let v ← toVariable raw
  setVariable name (pure v.value) v.description

/-- Registers a function. -/
def loadFunction (raw : Json) : Step α Unit := do
  match raw.get? "b" with
  | some (.str body) =>
    discard <| registerFunction ((raw.get? "n").getD (.str ""))
      ((raw.get? "arg").getD (.arr [])) body
  | _ => throw (.error (.snapshot (.function raw)))

/-- Registers the entries of all parts, in order. -/
def loadParts (body : List (String × Json)) : Step α Unit := do
  (← objectPart body "input_units").forM fun e => loadInputUnit e.1 e.2
  (← listPart body "output_units").forM loadOutputUnit
  (← objectPart body "constants").forM fun e => loadConstant e.1 e.2
  (← objectPart body "variables").forM fun e => loadVariable e.1 e.2
  (← listPart body "user_functions").forM loadFunction

/-- A calculation error while loading is a fault of the snapshot. -/
def asSnapshotFault : Fault → Fault
  | .error (.snapshot cause) => .error (.snapshot cause)
  | .error cause => .error (.snapshot (.entry cause.message))
  | other => other

/-- Registers the entries of a snapshot's body. -/
def loadBody (body : List (String × Json)) : Step α Unit :=
  tryCatch (loadParts body) fun fault => throw (asSnapshotFault fault)

end

/-- What every snapshot has to have: a body, a known kind of scalar, and no settings but the
known ones. -/
structure Header where
  body : List (String × Json)
  kind : ScalarKind
  settings : List (String × Json)

/-- The kind of scalar that a snapshot names. -/
def kindOf (raw : Option Json) : Except SnapshotError ScalarKind :=
  match raw with
  | none => .ok .real
  | some (.str name) =>
    match ScalarKind.ofName name with
    | .ok kind => .ok kind
    | .error _ => .error (.scalarKind (.str name))
  | some other => .error (.scalarKind other)

/-- The names of members that are no settings, each once and sorted. -/
def unknownSettings (settings : List (String × Json)) : List String :=
  ((settings.map Prod.fst).filter fun n => (({} : Settings).set? n .null).isNone).mergeSort
    fun a b => a ≤ b

/-- The header of a snapshot. -/
def header (data : Json) : Except SnapshotError Header :=
  match data.get? "workspace" with
  | some (.obj body) => do
    let kind ← kindOf (data.get? "scalar")
    let settings ← objectPart body "settings"
    match unknownSettings settings with
    | [] => return ⟨body, kind, settings⟩
    | names => throw (.unknownSettings names)
  | _ => .error .noWorkspace

/-- Loads a snapshot into a calculator of its kind. -/
def loadInto {α : Type} [Scalar α] (data : Json) : Step α Unit := do
  let h ← (header data).mapError fun e => Fault.error (.snapshot e)
  unless h.kind = Scalar.kind α do
    throw (.error (.snapshot (.otherKind h.kind.name (Scalar.kind α).name)))
  loadBody h.body

/-- A calculator with given settings, whose faults are faults of the snapshot. -/
def start {α : Type} [Scalar α] (settings : List (String × Json)) :
    Except SnapshotError (Calculator α) :=
  match Calculator.create ((Settings.ofMembers? settings).getD {}) with
  | .ok c => .ok c.withBuiltins
  | .error trouble => .error (.settings trouble.message)

/-- A calculator from a header. -/
def loadNew {α : Type} [Scalar α] (h : Header) : Except Fault (Calculator α) := do
  let c ← (start h.settings).mapError fun e => Fault.error (.snapshot e)
  let (result, after) := (loadBody h.body).run.run c
  result
  return after

/-- A calculator from a snapshot. -/
def load (data : Json) : Except Fault AnyCalculator := do
  let h ← (header data).mapError fun e => Fault.error (.snapshot e)
  match h.kind with
  | .real => return .real (← loadNew h)
  | .complex => return .complex (← loadNew h)

/-- The snapshot of a calculator as text. -/
def write {α : Type} [Scalar α] (c : Calculator α) (layout : Json.Layout := {}) : String :=
  (ofCalculator c).write layout

/-- A calculator from what came of reading a snapshot. -/
def loadRead : Except Json.ReadError Json → Except Fault AnyCalculator
  | .ok data => load data
  | .error .tooDeep => .error .stackExhausted
  | .error .undecodable => .error (.misuse .undecodable)
  | .error (.integerTooLong digits) =>
    .error (.misuse (.stated (Json.ReadError.integerTooLong digits).message))
  | .error cause => .error (.error (.snapshot (.notJson cause)))

/-- A calculator from the text of a snapshot. -/
def read (text : String) : Except Fault AnyCalculator := loadRead (Json.read text)

/-- A calculator from the bytes of a snapshot. -/
def readBytes (bytes : ByteArray) : Except Fault AnyCalculator := loadRead (Json.readBytes bytes)

end Snapshot
end QuantityCalculus
