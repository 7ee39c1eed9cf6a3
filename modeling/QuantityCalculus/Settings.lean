/-
# Settings

A calculator has five settings. Each is kept as the value it was given, because a
snapshot gives it back unchanged; what the calculator makes of a value is read off when
it is needed. A mark that is a list of one item, for instance, is a mark that no
character matches.
-/

import QuantityCalculus.Error
import QuantityCalculus.Expr.Token
import QuantityCalculus.Json.Same
import QuantityCalculus.Number.Rounding

namespace QuantityCalculus

/-- The settings of a calculator. -/
structure Settings where
  /-- the character between arguments -/
  separator : Json := .str ","
  /-- the character before a fraction -/
  decimal : Json := .str "."
  /-- the variable that takes the last result; none when empty -/
  answerVariable : Json := .str ""
  /-- how many calls of defined functions may be active at once -/
  maxCallDepth : Json := .int 64
  /-- whether results are shown in registered output units -/
  resolveOutputUnits : Json := .bool true

/-- How many calls may be active at once. -/
inductive CallLimit where
  | unlimited
  | atMost (count : Nat)
deriving Repr, DecidableEq

/-- Why a value cannot be a setting. -/
inductive SettingTrouble where
  | misuse (cause : Misuse)
  | wrongType (explanation : String)
deriving Repr, DecidableEq

/-- The wording of a refused setting. -/
def SettingTrouble.message : SettingTrouble → String
  | misuse cause => cause.message
  | wrongType explanation => explanation

/-- A refused setting as a fault of an operation. -/
def SettingTrouble.toFault : SettingTrouble → Fault
  | misuse cause => .misuse cause
  | wrongType explanation => .wrongType explanation

instance : MonadLift (Except SettingTrouble) (Except Fault) :=
  ⟨Except.mapError SettingTrouble.toFault⟩

namespace Settings

/-- The word for the type of a value. -/
def typeWord : Json → String
  | .null => "NoneType"
  | .bool _ => "bool"
  | .int _ => "int"
  | .float _ => "float"
  | .str _ => "str"
  | .arr _ => "list"
  | .obj _ => "dict"

/-- The number of characters, items or members of a value; other values have no length. -/
def length : Json → Except SettingTrouble Nat
  | .str s => .ok s.length
  | .arr items => .ok items.length
  | .obj members => .ok members.length
  | v => .error (.wrongType ("object of type '" ++ typeWord v ++ "' has no len()"))

/-- The character of a mark; a value that is no text matches none. -/
def mark? : Json → Option Char
  | .str s => s.toList.head?
  | _ => none

/-- Whether a value is a number below one; only numbers can be compared. -/
def belowOne : Json → Except SettingTrouble Bool
  | .bool b => .ok !b
  | .int n => .ok (decide (n < 1))
  | .float x => .ok (decide (x < 1.0))
  | v => .error
      (.wrongType ("'<' not supported between instances of '" ++ typeWord v ++ "' and 'int'"))

/-- Settings that a calculator can start with: two different marks of one character, and a
call depth of at least one. -/
def check (s : Settings) : Except SettingTrouble Unit := do
  if (← length s.separator) ≠ 1 then throw (.misuse .separators)
  if (← length s.decimal) ≠ 1 then throw (.misuse .separators)
  if s.separator.same s.decimal then throw (.misuse .separators)
  if ← belowOne s.maxCallDepth then throw (.misuse .callDepth)

/-- The marks that a separator and a decimal mark stand for. -/
def marksOf (separator decimal : Json) : Except SettingTrouble Marks := do
  if (← length separator) ≠ 1 then throw (.misuse .separatorLength)
  if (← length decimal) ≠ 1 then throw (.misuse .separatorLength)
  if separator.same decimal then throw (.misuse .separatorsEqual)
  return ⟨mark? separator, mark? decimal⟩

/-- The marks for reading an expression. -/
def marks (s : Settings) : Except SettingTrouble Marks := marksOf s.separator s.decimal

/-- The decimal mark of numbers, if it is a text. -/
def decimalText? (s : Settings) : Option String :=
  match s.decimal with
  | .str t => some t
  | _ => none

/-- The limit on active calls; a value that is no number cannot limit. -/
def callLimit? (s : Settings) : Option CallLimit :=
  match s.maxCallDepth with
  | .bool b => some (.atMost (if b then 1 else 0))
  | .int n => some (.atMost n.toNat)
  | .float x =>
    match Number.ceil? x with
    | some n => some (.atMost n.toNat)
    | none => some (if x < 0 then .atMost 0 else .unlimited)
  | _ => none

/-- Whether results are shown in output units. -/
def showsOutputUnits (s : Settings) : Bool := s.resolveOutputUnits.isPresent

/-- The settings by name, in order. -/
def toMembers (s : Settings) : List (String × Json) :=
  [("separator", s.separator), ("decimal", s.decimal), ("answer_variable", s.answerVariable),
    ("max_call_depth", s.maxCallDepth), ("resolve_output_units", s.resolveOutputUnits)]

/-- Gives a setting another value; none for a name that is no setting. -/
def set? (s : Settings) (name : String) (value : Json) : Option Settings :=
  match name with
  | "separator" => some { s with separator := value }
  | "decimal" => some { s with decimal := value }
  | "answer_variable" => some { s with answerVariable := value }
  | "max_call_depth" => some { s with maxCallDepth := value }
  | "resolve_output_units" => some { s with resolveOutputUnits := value }
  | _ => none

/-- The default settings with the named ones replaced; none if a name is no setting. -/
def ofMembers? (members : List (String × Json)) : Option Settings :=
  members.foldlM (fun s m => s.set? m.1 m.2) {}

end Settings
end QuantityCalculus
