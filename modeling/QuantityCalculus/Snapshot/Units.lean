/-
# Units, quantities and variables in JSON

A unit is a symbol, one dimension `["m", 2]` or `["m", 1, 2]`, or a list of dimensions; an
exponent of one is left out. A quantity has its scalar under `s` and its unit, unless it
has none, under `u`; a variable has its quantity under `q` and its description, unless it
is empty, under `d`.
-/

import QuantityCalculus.Calculator.Basic

namespace QuantityCalculus
namespace Snapshot

/-- A symbol with its exponent. -/
def dimension (symbol : String) (exponent : Rat) : Json :=
  if exponent.den = 1 then .arr [.str symbol, .int exponent.num]
  else .arr [.str symbol, .int exponent.num, .int exponent.den]

/-- A unit. -/
def ofUnits (u : Units) : Json :=
  match u.toList with
  | [] => .arr []
  | [(symbol, exponent)] => if exponent = 1 then .str symbol else dimension symbol exponent
  | factors => .arr (factors.map fun f =>
      if f.2 = 1 then .arr [.str f.1] else dimension f.1 f.2)

/-- The integers of a list, if it holds nothing else. -/
def integers? : List Json → Option (List Int)
  | [] => some []
  | .int n :: rest => (integers? rest).map (n :: ·)
  | _ => none

/-- A symbol with its exponent, from a list of one to three items. -/
def toDimension (items : List Json) : Except SnapshotError (String × Rat) :=
  match items with
  | .str symbol :: numbers =>
    if 2 < numbers.length then .error .dimensionSize
    else match integers? numbers with
      | none => .error (.exponents (.arr items))
      | some [] => .ok (symbol, 1)
      | some [n] => .ok (symbol, n)
      | some (n :: d :: _) =>
        if d = 0 then .error (.zeroDenominator symbol) else .ok (symbol, (n : Rat) / d)
  | _ => .error .dimensionSize

/-- A symbol with its exponent, from an item of a list. -/
def toDimensionItem : Json → Except SnapshotError (String × Rat)
  | .arr items => toDimension items
  | other => .error (.dimension other)

/-- A unit from JSON. -/
def toUnits : Json → Except SnapshotError Units
  | .str symbol => .ok (.ofSymbol symbol)
  | .arr [] => .ok .none
  | .arr (.str s :: rest) => do return .ofList [← toDimension (.str s :: rest)]
  | .arr items => do return .ofList (← items.mapM toDimensionItem)
  | other => .error (.unit other)

variable {α : Type} [Scalar α]

/-- A quantity. -/
def ofQuantity (q : Quantity α) : Json :=
  .obj (("s", Scalar.toJson q.scalar) :: if q.isPure then [] else [("u", ofUnits q.units)])

/-- A scalar from JSON; the refusal of a scalar is one of the snapshot. -/
def toScalar (raw : Json) : Except Fault α :=
  match (Scalar.ofJson raw : Except Fault α) with
  | .error (.error cause) => .error (.error (.snapshot (.entry cause.message)))
  | other => other

/-- A unit from JSON as a step that may end otherwise. -/
def unitsOf (raw : Json) : Except Fault Units :=
  (toUnits raw).mapError fun e => .error (.snapshot e)

/-- A quantity from JSON. -/
def toQuantity (raw : Json) : Except Fault (Quantity α) :=
  match raw.get? "s" with
  | none => .error (.error (.snapshot (.quantity raw)))
  | some s => do return ⟨← toScalar s, ← unitsOf ((raw.get? "u").getD (.arr []))⟩

/-- A variable. -/
def ofVariable (v : Variable α) : Json :=
  .obj (("q", ofQuantity v.value) ::
    match v.description with
    | some d => if d = "" then [] else [("d", .str d)]
    | none => [])

/-- A description, of which the empty one is none. -/
def toDescription : Option Json → Except SnapshotError (Option String)
  | none | some .null => .ok none
  | some (.str d) => .ok (if d = "" then none else some d)
  | some _ => .error .description

/-- A variable from JSON. -/
def toVariable (raw : Json) : Except Fault (Variable α) :=
  match raw.get? "q" with
  | none => .error (.error (.snapshot (.variable raw)))
  | some q => do
    let description ← (toDescription (raw.get? "d")).mapError fun e => .error (.snapshot e)
    return ⟨← toQuantity q, description⟩

end Snapshot
end QuantityCalculus
