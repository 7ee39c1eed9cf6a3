/-
# Values of expressions

An expression has a value in a chain of scopes. Names are looked up from the innermost
scope outward; an assignment binds in the innermost scope; a definition enters the table
of functions. A call runs the body of a function in a new scope, which binds the
parameters and lies inside the scope of the caller.

Two bounds make every evaluation end. The number of calls that may still be opened is the
recursion's own argument, so a call with none left fails. The frames of the host that may
still be used, if they are counted, grow scarce with every nested node.

What was assigned or defined before a failure stays.
-/

import QuantityCalculus.Builtin
import QuantityCalculus.Expr.Basic
import QuantityCalculus.Json.Same
import QuantityCalculus.Name
import QuantityCalculus.Quantity.Arithmetic
import QuantityCalculus.Settings
import QuantityCalculus.Table

namespace QuantityCalculus

/-- A bound quantity, with words about it. -/
structure Variable (α : Type) where
  value : Quantity α
  description : Option String := none

/-- The bindings of one scope. -/
abbrev Scope (α : Type) := Table String (Variable α)

/-- A parameter of a function. Besides names there may be values that are no names; such a
parameter takes an argument that nothing in the body can refer to. -/
inductive Parameter where
  | name (text : String)
  | value (v : Json)

namespace Parameter

/-- The parameter as a value. -/
def toJson : Parameter → Json
  | name s => .str s
  | value v => v

/-- Whether no two parameters are the same. -/
def distinct : List Parameter → Bool
  | [] => true
  | p :: rest => !rest.any (fun q => p.toJson.same q.toJson) && distinct rest

end Parameter

/-- A function that was defined by an expression, with the text of its body. -/
structure Function where
  name : String
  parameters : List Parameter
  body : Expr
  bodyText : String

/-- The number of arguments. -/
def Function.arity (f : Function) : Nat := f.parameters.length

/-- A function needs a valid name and distinct parameters. -/
def Function.check (name : String) (parameters : List Parameter) : Except Invalid Unit := do
  Name.check name .function
  unless Parameter.distinct parameters do throw (.duplicateParameters name)

/-- The defined functions by name and number of arguments. -/
abbrev Functions := Table (String × Nat) Function

/-- A function enters the table under its name and number of arguments. -/
def Functions.define (fs : Functions) (f : Function) : Functions := fs.insert (f.name, f.arity) f

/-- What an evaluation may change: the innermost scope and the functions. -/
structure Store (α : Type) where
  scope : Scope α
  functions : Functions

/-- What an evaluation only reads: the scopes around the innermost one, the units, the
built-in functions and the settings. -/
structure Context (α : Type) where
  outer : List (Scope α)
  units : Table String (Quantity α)
  builtins : List Builtin
  settings : Settings

/-- A step of an evaluation. The store is kept also when the step fails. -/
abbrev Eval (α β : Type) := ExceptT Fault (StateM (Store α)) β

/-- The frames of the host that may still be used; unlimited when they are not counted. -/
abbrev Room := Option Nat

/-- The room inside a node that takes some frames. -/
def Room.spend (room : Room) (frames : Nat) : Except Fault Room :=
  match room with
  | none => .ok none
  | some left => if frames ≤ left then .ok (some (left - frames)) else .error .stackExhausted

/-- How to call a defined function. -/
abbrev Caller (α : Type) := Room → Function → List (Quantity α) → Eval α (Quantity α)

/-- The binding of a name in the first scope that has one. -/
def lookupScopes {α : Type} (scopes : List (Scope α)) (name : String) : Option (Variable α) :=
  scopes.findSome? fun s => s.get? name

/-- The quantities bound to the parameters that are names. -/
def Scope.ofArguments {α : Type} (parameters : List Parameter) (arguments : List (Quantity α)) :
    Scope α :=
  Table.ofList ((parameters.zip arguments).filterMap fun p =>
    match p.1 with
    | .name n => some (n, ⟨p.2, none⟩)
    | .value _ => none)

namespace Expr

variable {α : Type} [Scalar α]

/-- The value of a name: what the nearest scope binds to it, else a scalar's own constant. -/
def valueOfName (scopes : List (Scope α)) (name : String) : Except CalcError (Quantity α) :=
  match lookupScopes scopes name with
  | some v => .ok v.value
  | none =>
    match (Scalar.constant? name : Option α) with
    | some x => .ok (.pure x)
    | none => .error (.missing (.variable name))

/-- The value of a number. -/
def valueOfScalar (settings : Settings) (text : String) : Except Fault (Quantity α) := do
  match settings.decimalText? with
  | none => throw (.wrongType "the decimal mark must be text")
  | some decimal =>
    let x : α ← (Scalar.ofLiteral text decimal).mapError fun e => .error (.invalid e)
    return .pure x

/-- The value of an operator with one operand. -/
def applyUnary (op : UnaryOp) (a : Quantity α) : Except CalcError (Quantity α) :=
  match op with
  | .plus => .ok a
  | .minus => .ok a.neg
  | .factorial => a.factorial
  | .removeUnits => .ok a.stripped

/-- The value of an operator whose operands are both needed. -/
def applyBinary (op : BinaryOp) (a b : Quantity α) : Except CalcError (Quantity α) :=
  match op with
  | .bitwiseOr => a.bitwiseOr b
  | .bitwiseAnd => a.bitwiseAnd b
  | .equal => a.equal b
  | .notEqual => a.notEqual b
  | .less => a.less b
  | .lessEqual => a.lessOrEqual b
  | .greater => a.greater b
  | .greaterEqual => a.greaterOrEqual b
  | .shiftLeft => a.shiftLeft b
  | .shiftRight => a.shiftRight b
  | .add => a.add b
  | .subtract => a.sub b
  | .multiply => .ok (a.mul b)
  | .divide => a.div b
  | .modulo => a.remainder b
  | .intDivide => a.integerDiv b
  | .power => a.power b
  | .inUnit => if a.units = b.units then .ok a else .error (.units .base)
  | .logicalOr => .ok (.ofBool (a.isTrue || b.isTrue))
  | .logicalAnd => .ok (.ofBool (a.isTrue && b.isTrue))
  | .assign => .ok b

/-- The names of the parameters of a definition. -/
def parameterNames : List Expr → Except CalcError (List Parameter)
  | [] => .ok []
  | .name n :: rest => do return .name n :: (← parameterNames rest)
  | _ :: _ => .error (.invalid .parameter)

/-- Binds a name in the innermost scope. -/
def assign (name : String) (value : Quantity α) : Eval α Unit :=
  modify fun st => { st with scope := st.scope.insert name ⟨value, none⟩ }

/-- Enters a function into the table. -/
def define (name : String) (parameters : List Expr) (body : Expr) : Eval α Unit := do
  let names ← parameterNames parameters
  (Function.check name names).mapError fun e => Fault.error (.invalid e)
  modify fun st => { st with functions := st.functions.define ⟨name, names, body, body.content⟩ }

/-- The value of a call: a defined function goes before a built-in one. -/
def applyFunction (ctx : Context α) (call : Caller α) (room : Room) (name : String)
    (arguments : List (Quantity α)) : Eval α (Quantity α) := do
  match (← get).functions.get? (name, arguments.length) with
  | some f => call room f arguments
  | none =>
    match Builtin.find? ctx.builtins name arguments.length with
    | some b => b.apply arguments
    | none => throw (.error (.missing (.function name arguments.length)))

mutual

/-- The value of an expression. -/
def value (ctx : Context α) (call : Caller α) : Room → Expr → Eval α (Quantity α)
  | _, .scalar text => valueOfScalar ctx.settings text
  | _, .name n => do valueOfName ((← get).scope :: ctx.outer) n
  | _, .unit n =>
    match ctx.units.get? n with
    | some q => return q
    | none => throw (.error (.missing (.unit n)))
  | room, .unary .removeUnits (.binary .inUnit a b _) _ => do
    let room ← room.spend 2
    let x ← value ctx call room a
    let y ← value ctx call room b
    return .pure (← Quantity.ratio .conversion x y)
  | room, .unary op a _ => do
    let room ← room.spend 2
    applyUnary op (← value ctx call room a)
  | room, .binary .assign (.name n) b _ => do
    let room ← room.spend 3
    let x ← value ctx call room b
    assign n x
    return x
  | _, .binary .assign (.call f parameters _) body _ => do
    define f parameters body
    return .zero
  | _, .binary .assign _ _ _ => throw (.error (.invalid .assignmentTarget))
  | room, .binary .inUnit (.unary .removeUnits a _) b _ => do
    let room ← room.spend 2
    let x ← value ctx call room a
    let y ← value ctx call room b
    return .pure (← Quantity.ratio .conversion x y)
  | room, .binary .logicalOr a b _ => do
    let room ← room.spend 2
    if (← value ctx call room a).isTrue then return .ofBool true
    else return .ofBool (← value ctx call room b).isTrue
  | room, .binary .logicalAnd a b _ => do
    let room ← room.spend 2
    if (← value ctx call room a).isTrue then return .ofBool (← value ctx call room b).isTrue
    else return .ofBool false
  | room, .binary op a b _ => do
    let room ← room.spend 2
    let x ← value ctx call room a
    let y ← value ctx call room b
    applyBinary op x y
  | room, .conditional c a b _ => do
    let room ← room.spend 1
    if (← value ctx call room c).isTrue then value ctx call room a
    else value ctx call room b
  | room, .call f as _ => do
    let xs ← values ctx call (← room.spend 3) as
    applyFunction ctx call room f xs

/-- The values of arguments, the first one first. -/
def values (ctx : Context α) (call : Caller α) : Room → List Expr → Eval α (List (Quantity α))
  | _, [] => return []
  | room, a :: as => do
    let x ← value ctx call room a
    return x :: (← values ctx call room as)

end

/-- Calls of defined functions, when so many more may be open at once. The body runs in a
scope of its own inside the scope of the caller; afterwards the caller's scope is as it was,
and the functions are as the body left them. -/
def callWithin : Nat → Context α → Caller α
  | 0, ctx => fun _ f _ =>
    throw (.error (.callDepth ctx.settings.maxCallDepth.plain f.name))
  | left + 1, ctx => fun room f arguments => do
    let room ← room.spend 3
    let st ← get
    let inside := { ctx with outer := st.scope :: ctx.outer }
    let (result, after) := (value inside (callWithin left inside) room f.body).run.run
      ⟨.ofArguments f.parameters arguments, st.functions⟩
    set { st with functions := after.functions }
    result

/-- Calls under the limit of the settings. Without a limit the room decides. -/
def caller (ctx : Context α) (room : Room) : Caller α :=
  match ctx.settings.callLimit? with
  | some (.atMost count) => callWithin count ctx
  | some .unlimited => callWithin (room.getD 0) ctx
  | none => fun _ _ _ => throw (.wrongType "the call depth must be a number")

/-- The value of an expression outside of any call. -/
def evaluate (ctx : Context α) (room : Room) (e : Expr) : Eval α (Quantity α) :=
  value ctx (caller ctx room) room e

end Expr
end QuantityCalculus
