/-
# Listings

What a calculator holds, for a client: its variables and constants, its units, and its
functions.
-/

import QuantityCalculus.Calculator.Outcome

namespace QuantityCalculus
namespace Listing

variable {α : Type} [Scalar α]

/-- A quantity as text. -/
def display (q : Quantity α) : Json := .str (q.text Outcome.defaultPrecision)

/-- A variable. -/
def ofVariable (name : Json) (v : Variable α) : Json :=
  .obj [("name", name), ("value", Scalar.toJson v.value.scalar),
    ("unit", .str v.value.units.text), ("display", display v.value),
    ("description", .ofText? v.description)]

/-- A constant. -/
def ofConstant (name : String) (v : Variable α) : Json :=
  .obj [("name", .str name), ("display", display v.value), ("description", .ofText? v.description)]

/-- The variables and constants, in the order in which they were first bound. -/
def bindings (c : Calculator α) : List (String × Json) :=
  [("variables", .arr (c.namedVariables.map fun e => ofVariable e.1 e.2)),
    ("constants", .arr (c.constants.toList.map fun e => ofConstant e.1 e.2))]

/-- The factor and the unit of a value. -/
def factorOf (q : Quantity α) : List (String × Json) :=
  [("factor", Scalar.toJson q.scalar), ("base", .str q.units.text)]

/-- An input unit. -/
def ofInputUnit (name : String) (q : Quantity α) : List (String × Json) :=
  ("name", .str name) :: factorOf q

/-- An output unit. -/
def ofOutputUnit (u : OutputUnit α) : List (String × Json) :=
  [("unit", .str u.display.text), ("base", .str u.base.text), ("factor", Scalar.toJson u.factor)]

/-- The input units, sorted by name. -/
def inputUnits (c : Calculator α) : List (String × Quantity α) :=
  c.inputUnits.toList.mergeSort fun a b => a.1 ≤ b.1

/-- The input units by name and the output units in the order of their registration. -/
def units (c : Calculator α) : List (String × Json) :=
  [("input_units", .arr ((inputUnits c).map fun e => .obj (ofInputUnit e.1 e.2))),
    ("output_units", .arr (c.outputUnits.values.map fun u => .obj (ofOutputUnit u)))]

/-- A defined function. -/
def ofFunction (f : Function) : Json :=
  .obj [("name", .str f.name), ("parameters", .arr (f.parameters.map Parameter.toJson)),
    ("body", .str f.bodyText)]

/-- A built-in function. -/
def ofBuiltin (b : Builtin) : Json :=
  .obj [("name", .str b.name), ("arity", .int b.arity), ("description", .str b.description)]

/-- Whether a built-in function stands before another: by name, then by arity. -/
def before (a b : Builtin) : Bool :=
  a.name < b.name || (a.name == b.name && a.arity ≤ b.arity)

/-- The defined functions in the order of their definition and the sorted built-in ones. -/
def functions (c : Calculator α) : List (String × Json) :=
  [("user_functions", .arr (c.functions.values.map ofFunction)),
    ("builtin_functions", .arr ((c.builtins.mergeSort before).map ofBuiltin))]

end Listing
end QuantityCalculus
