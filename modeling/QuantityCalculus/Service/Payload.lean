/-
# Payloads

What a request may carry, and what the settings of a service may say: a schema for each,
and the value that an object of the schema stands for.
-/

import QuantityCalculus.Scalar.Basic
import QuantityCalculus.Service.Schema

namespace QuantityCalculus
namespace Payload

/-! Values of members that were read against a schema. -/

/-- The text of a member. -/
def text? (name : String) (members : List (String × Json)) : Option String :=
  match Json.member? name members with
  | some (.str s) => some s
  | _ => none

/-- The kind of scalar that a member names. -/
def kind? (name : String) (members : List (String × Json)) : Option ScalarKind := do
  let s ← text? name members
  ScalarKind.all.find? fun k => k.name = s

/-- The texts of a member. -/
def texts? (name : String) (members : List (String × Json)) : Option (List String) :=
  match Json.member? name members with
  | some (.arr items) => some (items.filterMap fun v =>
      match v with
      | .str s => some s
      | _ => none)
  | _ => none

/-- The integer of a member. -/
def integer? (name : String) (members : List (String × Json)) : Option Int :=
  match Json.member? name members with
  | some (.int n) => some n
  | _ => none

/-- The number of a member. -/
def number? (name : String) (members : List (String × Json)) : Option Float :=
  match Json.member? name members with
  | some (.float x) => some x
  | some (.int n) => some (Number.ofInt n)
  | _ => none

/-- One of the names of the kinds of scalars. -/
def kindShape : Shape := .oneOf (ScalarKind.all.map ScalarKind.name)

/-- A member that may be absent or null. -/
def optional (name : String) (shape : Shape) : Member := ⟨name, shape, some .null, true⟩

end Payload

open Payload

/-- A request to evaluate a text, in a session or in a calculator of its own. -/
structure Evaluation where
  text : String
  session : Option String
  kind : Option ScalarKind
  unitSets : Option (List String)

namespace Evaluation

/-- The members of a request to evaluate. -/
def schema : Schema :=
  ⟨"EvaluatePayload", [⟨"expression", .text, none, false⟩, optional "session_id" .text,
    optional "domain" kindShape, optional "unit_sets" .texts]⟩

/-- The request that members stand for. -/
def ofMembers (ms : List (String × Json)) : Evaluation :=
  ⟨(text? "expression" ms).getD "", text? "session_id" ms, kind? "domain" ms,
    texts? "unit_sets" ms⟩

end Evaluation

/-- A request for a new session. -/
structure NewSession where
  kind : Option ScalarKind
  unitSets : Option (List String)

namespace NewSession

/-- The members of a request for a session. -/
def schema : Schema :=
  ⟨"SessionPayload", [optional "domain" kindShape, optional "unit_sets" .texts]⟩

/-- The request that members stand for. -/
def ofMembers (ms : List (String × Json)) : NewSession :=
  ⟨kind? "domain" ms, texts? "unit_sets" ms⟩

end NewSession

/-- A unit and the text of its value. -/
structure Definition where
  unit : String
  text : String

namespace Definition

/-- The members of a request to define an input unit. -/
def inputSchema : Schema :=
  ⟨"InputUnitPayload", [⟨"name", .text, none, false⟩, ⟨"expression", .text, none, false⟩]⟩

/-- The members of a request to define an output unit. -/
def outputSchema : Schema :=
  ⟨"OutputUnitPayload", [⟨"unit", .text, none, false⟩, ⟨"expression", .text, none, false⟩]⟩

/-- The definition whose unit is a member of the given name. -/
def ofMembers (unit : String) (ms : List (String × Json)) : Definition :=
  ⟨(text? unit ms).getD "", (text? "expression" ms).getD ""⟩

end Definition

namespace Payload

/-- The members of a request to import a snapshot. -/
def importSchema : Schema := ⟨"ImportPayload", [⟨"snapshot", .members, none, false⟩]⟩

end Payload

/-- What a service does where a request does not say, and the limits it keeps. -/
structure ServiceSettings where
  kind : ScalarKind
  unitSets : List String
  answerVariable : String
  /-- the most characters of an expression -/
  longestText : Int
  callDepth : Int
  /-- minutes until an idle session expires -/
  idleMinutes : Float
  /-- the most sessions at a time -/
  capacity : Int
  /-- the digits that results are shown with -/
  precision : Nat

namespace ServiceSettings

/-- The members of the settings. -/
def schema : Schema :=
  ⟨"CalculatorSettings", [
    ⟨"default_domain", kindShape, some (.str "real"), false⟩,
    ⟨"unit_sets", .texts, some (.arr [.str "common"]), false⟩,
    ⟨"answer_variable", .text, some (.str "ans"), false⟩,
    ⟨"max_expression_length", .integer 1 none, some (.int 1000), false⟩,
    ⟨"max_call_depth", .integer 1 none, some (.int 64), false⟩,
    ⟨"session_ttl_minutes", .numberAbove 0, some (.int 30), false⟩,
    ⟨"max_sessions", .integer 1 none, some (.int 256), false⟩,
    ⟨"precision", .integer 1 (some 17), some (.int 12), false⟩]⟩

/-- The settings that members stand for. -/
def ofMembers (ms : List (String × Json)) : ServiceSettings where
  kind := (kind? "default_domain" ms).getD .real
  unitSets := (texts? "unit_sets" ms).getD ["common"]
  answerVariable := (text? "answer_variable" ms).getD "ans"
  longestText := (integer? "max_expression_length" ms).getD 1000
  callDepth := (integer? "max_call_depth" ms).getD 64
  idleMinutes := (number? "session_ttl_minutes" ms).getD 30
  capacity := (integer? "max_sessions" ms).getD 256
  precision := ((integer? "precision" ms).getD 12).toNat

end ServiceSettings
end QuantityCalculus
