/-
# Runs of a machine

An evaluation seen step by step. A machine holds everything that an expression could reach: the
current scope and those around it, the count of open calls, and the tables and settings of the
calculator. A call pushes a scope and counts itself; when its body ends, with a value or with a
fault, the scope is popped and the count goes down again. Nothing here is protected from change:
every rule passes the whole machine on.

`Runs` relates a machine and an expression to what may come of it: a value or a fault, the machine
that is left, and the events of the run in their order. There is no measure and no fuel in the
rules, so that an expression whose evaluation went on forever would have no run at all.
-/

import QuantityCalculus.Calculator.Basic

namespace QuantityCalculus

/-- What happens to functions in a run. -/
inductive CallEvent (α : Type) where
  /-- the body of a defined function begins -/
  | entered (f : Function)
  /-- the body of a defined function ends, with a value or with a fault -/
  | left (f : Function)
  /-- a defined function is called and may not begin -/
  | refused (f : Function)
  /-- a built-in function is applied -/
  | applied (b : Builtin) (arguments : List (Quantity α))

/-- Everything that an expression could reach. -/
structure Machine (α : Type) where
  /-- the current scope -/
  scope : Scope α
  /-- the scopes around it, the nearest first -/
  outer : List (Scope α)
  /-- how many calls of defined functions are open -/
  depth : Nat
  functions : Functions
  inputUnits : Table String (Quantity α)
  outputUnits : Table Units (OutputUnit α)
  builtins : List Builtin
  settings : Settings
  diagnostics : List String

/-- A calculator between evaluations: the variables are the current scope, with the constants
around it, and no call is open. -/
def Calculator.machine {α : Type} (c : Calculator α) : Machine α where
  scope := c.globals
  outer := [c.constants]
  depth := 0
  functions := c.functions
  inputUnits := c.inputUnits
  outputUnits := c.outputUnits
  builtins := c.builtins
  settings := c.settings
  diagnostics := c.diagnostics

namespace Machine

variable {α : Type}

/-- Binds a name in the current scope to what an expression has ended with, if it is a value. -/
def assign (M : Machine α) (name : String) : Except Fault (Quantity α) → Machine α
  | .ok q => { M with scope := M.scope.insert name ⟨q, none⟩ }
  | .error _ => M

/-- Enters a function into the table. -/
def define (M : Machine α) (f : Function) : Machine α :=
  { M with functions := M.functions.define f }

/-- Opens a call: a scope with the parameters becomes the current one. -/
def enter (M : Machine α) (f : Function) (arguments : List (Quantity α)) : Machine α :=
  { M with
    scope := .ofArguments f.parameters arguments
    outer := M.scope :: M.outer
    depth := M.depth + 1 }

/-- Closes a call: the nearest scope around the current one becomes the current one. -/
def leave (M : Machine α) : Machine α :=
  match M.outer with
  | [] => M
  | scope :: outer => { M with scope, outer, depth := M.depth - 1 }

/-- Why a call may not begin while so many are open. -/
def refusal? (M : Machine α) (f : Function) : Option Fault :=
  match M.settings.callLimit? with
  | some (.atMost limit) =>
    if M.depth < limit then none
    else some (.error (.callDepth M.settings.maxCallDepth.plain f.name))
  | some .unlimited => none
  | none => some (.wrongType "the call depth must be a number")

end Machine

/-- The truth of a first operand that makes the second one superfluous. -/
def BinaryOp.decisive? : BinaryOp → Option Bool
  | logicalOr => some true
  | logicalAnd => some false
  | _ => none

namespace Expr

variable {α : Type} [Scalar α]

/-- How many of one quantity fit in another, as a conversion that drops the unit gives it. -/
def converted (x y : Quantity α) : Except CalcError (Quantity α) := do
  return .pure (← Quantity.ratio .conversion x y)

/-- The operand of an operator with one, and what the operator makes of its value. -/
def single? : Expr → Option (Expr × (Quantity α → Except CalcError (Quantity α)))
  | .unary .removeUnits (.binary .inUnit _ _ _) _ => none
  | .unary op a _ => some (a, applyUnary op)
  | _ => none

/-- The operands of an operator that needs both, and what the operator makes of their values. -/
def pair? : Expr → Option (Expr × Expr × (Quantity α → Quantity α → Except CalcError (Quantity α)))
  | .unary .removeUnits (.binary .inUnit a b _) _ => some (a, b, converted)
  | .binary .inUnit (.unary .removeUnits a _) b _ => some (a, b, converted)
  | .binary .assign _ _ _ | .binary .logicalOr _ _ _ | .binary .logicalAnd _ _ _ => none
  | .binary op a b _ => some (a, b, applyBinary op)
  | _ => none

theorem single?_unary {op : UnaryOp} {a : Expr} {c : String}
    (h : ∀ x y d, op = .removeUnits → a = .binary .inUnit x y d → False) :
    (Expr.unary op a c).single? = some (a, applyUnary (α := α) op) := by
  unfold single?
  split
  · rename_i heq
    cases heq
    exact (h _ _ _ rfl rfl).elim
  · rename_i heq
    cases heq
    rfl
  · rename_i hne
    exact (hne _ _ _ rfl).elim

theorem pair?_binary {op : BinaryOp} {a b : Expr} {c : String} (hassign : op = .assign → False)
    (hstripped : ∀ x d, op = .inUnit → a = .unary .removeUnits x d → False)
    (hor : op = .logicalOr → False) (hand : op = .logicalAnd → False) :
    (Expr.binary op a b c).pair? = some (a, b, applyBinary (α := α) op) := by
  unfold pair?
  split
  · rename_i heq
    cases heq
  · rename_i heq
    cases heq
    exact (hstripped _ _ rfl rfl).elim
  · rename_i heq
    cases heq
    exact (hassign rfl).elim
  · rename_i heq
    cases heq
    exact (hor rfl).elim
  · rename_i heq
    cases heq
    exact (hand rfl).elim
  · rename_i heq
    cases heq
    rfl
  · rename_i hne
    exact (hne _ _ _ _ rfl).elim

/-- The function that a definition enters into the table. -/
def definition (name : String) (parameters : List Expr) (body : Expr) : Except Fault Function := do
  let names ← parameterNames parameters
  (Function.check name names).mapError fun e => Fault.error (.invalid e)
  return ⟨name, names, body, body.content⟩

end Expr

open Expr

variable {α : Type} [Scalar α]

mutual

/-- `Runs host M e r M' t`: in the machine `M` the expression `e` ends with `r`, leaves `M'`, and
`t` happens on the way. If `host` is true the frames of the host may run out at any node. -/
inductive Runs (host : Bool) :
    Machine α → Expr → Except Fault (Quantity α) → Machine α → List (CallEvent α) → Prop
  | exhausted {M e} : host = true → Runs host M e (.error .stackExhausted) M []
  | scalar {M text} : Runs host M (.scalar text) (valueOfScalar M.settings text) M []
  | name {M n} :
    Runs host M (.name n) ((valueOfName (M.scope :: M.outer) n).mapError .error) M []
  | unit {M n q} : M.inputUnits.get? n = some q → Runs host M (.unit n) (.ok q) M []
  | unknownUnit {M n} : M.inputUnits.get? n = none →
    Runs host M (.unit n) (.error (.error (.missing (.unit n)))) M []
  | single {M M' e a f r t} : e.single? = some (a, f) → Runs host M a r M' t →
    Runs host M e (r >>= fun x => (f x).mapError .error) M' t
  | pair {M M' M'' e a b f x r t t'} : e.pair? = some (a, b, f) → Runs host M a (.ok x) M' t →
    Runs host M' b r M'' t' → Runs host M e (r >>= fun y => (f x y).mapError .error) M'' (t ++ t')
  | pairFails {M M' e a b f fault t} : pair? (α := α) e = some (a, b, f) →
    Runs host M a (.error fault) M' t → Runs host M e (.error fault) M' t
  | assign {M M' n b c r t} : Runs host M b r M' t →
    Runs host M (.binary .assign (.name n) b c) r (M'.assign n r) t
  | define {M n ps c body c' f} : definition n ps body = .ok f →
    Runs host M (.binary .assign (.call n ps c) body c') (.ok .zero) (M.define f) []
  | defineFails {M n ps c body c' fault} : definition n ps body = .error fault →
    Runs host M (.binary .assign (.call n ps c) body c') (.error fault) M []
  | badTarget {M target b c} : (∀ n, target ≠ .name n) → (∀ f ps c, target ≠ .call f ps c) →
    Runs host M (.binary .assign target b c) (.error (.error (.invalid .assignmentTarget))) M []
  | decided {M M' op a b c stop x t} : op.decisive? = some stop → Runs host M a (.ok x) M' t →
    x.isTrue = stop → Runs host M (.binary op a b c) (.ok (.ofBool stop)) M' t
  | undecided {M M' M'' op a b c stop x r t t'} : op.decisive? = some stop →
    Runs host M a (.ok x) M' t → x.isTrue ≠ stop → Runs host M' b r M'' t' →
    Runs host M (.binary op a b c) (r.map fun y => .ofBool y.isTrue) M'' (t ++ t')
  | undecidedFails {M M' op a b c stop fault t} : op.decisive? = some stop →
    Runs host M a (.error fault) M' t → Runs host M (.binary op a b c) (.error fault) M' t
  | conditional {M M' M'' e a b c x r t t'} : Runs host M e (.ok x) M' t →
    Runs host M' (if x.isTrue then a else b) r M'' t' →
    Runs host M (.conditional e a b c) r M'' (t ++ t')
  | conditionalFails {M M' e a b c fault t} : Runs host M e (.error fault) M' t →
    Runs host M (.conditional e a b c) (.error fault) M' t
  | call {M M' M'' n as c xs f r t t'} : RunsAll host M as (.ok xs) M' t →
    M'.functions.get? (n, xs.length) = some f → RunsCall host M' f xs r M'' t' →
    Runs host M (.call n as c) r M'' (t ++ t')
  | builtin {M M' n as c xs b t} : RunsAll host M as (.ok xs) M' t →
    M'.functions.get? (n, xs.length) = none → Builtin.find? M'.builtins n xs.length = some b →
    Runs host M (.call n as c) (b.apply xs) M' (t ++ [.applied b xs])
  | unknownFunction {M M' n as c xs t} : RunsAll host M as (.ok xs) M' t →
    M'.functions.get? (n, xs.length) = none → Builtin.find? M'.builtins n xs.length = none →
    Runs host M (.call n as c) (.error (.error (.missing (.function n xs.length)))) M' t
  | callFails {M M' n as c fault t} : RunsAll host M as (.error fault) M' t →
    Runs host M (.call n as c) (.error fault) M' t

/-- The expressions of a list, the first one first, up to the first one that fails. -/
inductive RunsAll (host : Bool) :
    Machine α → List Expr → Except Fault (List (Quantity α)) → Machine α → List (CallEvent α) →
      Prop
  | nil {M} : RunsAll host M [] (.ok []) M []
  | cons {M M' M'' a as x r t t'} : Runs host M a (.ok x) M' t → RunsAll host M' as r M'' t' →
    RunsAll host M (a :: as) (r.map (x :: ·)) M'' (t ++ t')
  | consFails {M M' a as fault t} : Runs host M a (.error fault) M' t →
    RunsAll host M (a :: as) (.error fault) M' t

/-- The call of a defined function. -/
inductive RunsCall (host : Bool) :
    Machine α → Function → List (Quantity α) → Except Fault (Quantity α) → Machine α →
      List (CallEvent α) → Prop
  | exhausted {M f xs} : host = true → M.refusal? f = none →
    RunsCall host M f xs (.error .stackExhausted) M []
  | refused {M f xs fault} : M.refusal? f = some fault →
    RunsCall host M f xs (.error fault) M [.refused f]
  | entered {M M' f xs r t} : M.refusal? f = none → Runs host (M.enter f xs) f.body r M' t →
    RunsCall host M f xs r M'.leave (.entered f :: (t ++ [.left f]))

end

end QuantityCalculus
