/-
# Unit sets

A unit set is a ready-made collection of units and constants that is installed under its
name. A new calculator is built from settings and a list of such names.
-/

import QuantityCalculus.UnitSet.Electronics

namespace QuantityCalculus

/-- The ready-made collections. -/
inductive UnitSet where
  | common
  | electronics
deriving Repr, DecidableEq

namespace UnitSet

/-- The collections in the order they are listed in. -/
def all : List UnitSet := [.common, .electronics]

/-- The name of a collection. -/
def name : UnitSet → String
  | common => "common"
  | electronics => "electronics"

/-- The collection of a name. -/
def ofName? (name : String) : Option UnitSet := all.find? fun s => s.name = name

variable {α : Type} [Scalar α]

/-- Installs a collection. -/
def install : UnitSet → Step α Unit
  | common => do
    commonUnits
    commonConstants
  | electronics => do
    electronicsUnits
    electronicsConstants

/-- Installs the collections of some names, one after the other. -/
def installAll (names : List String) : Step α Unit :=
  names.forM fun n =>
    match ofName? n with
    | some s => s.install
    | none => throw (.misuse (.unitSet n))

/-- A calculator with built-in functions and the named collections. -/
def build (settings : Settings) (names : List String) : Except Fault (Calculator α) := do
  let c : Calculator α := (← Calculator.create settings).withBuiltins
  let (result, after) := (installAll names).run.run c
  result
  return after

end UnitSet
end QuantityCalculus
