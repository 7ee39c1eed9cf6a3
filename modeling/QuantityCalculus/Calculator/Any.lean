/-
# Calculators over either kind of scalar

Where the kind of scalar is only known when a request or a snapshot is read, a calculator
is one over real or over complex scalars.
-/

import QuantityCalculus.Calculator.Basic
import QuantityCalculus.Scalar.Complex

namespace QuantityCalculus

/-- A calculator over scalars of either kind. -/
inductive AnyCalculator where
  | real (c : Calculator Float)
  | complex (c : Calculator Complex)

namespace AnyCalculator

/-- What a function of calculators over any scalars gives. -/
def get {β : Type} (a : AnyCalculator)
    (f : {α : Type} → [Scalar α] → Calculator α → β) : β :=
  match a with
  | real c => f c
  | complex c => f c

/-- Runs a step. -/
def run {β : Type} (a : AnyCalculator) (step : {α : Type} → [Scalar α] → Step α β) :
    Except Fault β × AnyCalculator :=
  match a with
  | real c => let (r, c) := (step : Step Float β).run.run c; (r, real c)
  | complex c => let (r, c) := (step : Step Complex β).run.run c; (r, complex c)

/-- The kind of the scalars. -/
def kind : AnyCalculator → ScalarKind
  | real _ => .real
  | complex _ => .complex

end AnyCalculator

end QuantityCalculus
