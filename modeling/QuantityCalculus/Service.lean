/-
# The service

A service evaluates expressions for its clients, each in a calculator of its own or in a
session's. It answers every request with a reply: a result, or a problem that says what is
wrong with the request. A fault that is no problem of the request is not told apart from
any other.

A body is looked at before the settings are, and the settings before the session. A request
that concerns a session looks at the clock twice: one that works with a session first drops the
idle ones and then notes its access; one that starts a session has the moment of its creation
before idle ones are dropped.
-/

import QuantityCalculus.Service.Listing
import QuantityCalculus.Service.Payload
import QuantityCalculus.Service.Problem
import QuantityCalculus.Service.Request
import QuantityCalculus.Service.Route
import QuantityCalculus.Session.Pool
import QuantityCalculus.Snapshot
import QuantityCalculus.UnitSet

namespace QuantityCalculus

/-- A service between requests. -/
structure Service where
  configuration : Configuration
  pool : SessionPool := {}
  /-- how many sessions were started so far -/
  started : Nat := 0
  /-- the ids that sessions get, by the number of the session -/
  idOf : Nat → String := SessionPool.idOf

/-- The two moments at which a request looks at the clock, if it does. -/
structure Clock where
  first : Instant
  second : Instant

/-- A computation that ends in a result or a problem. -/
abbrev Handler (β : Type) := ExceptT Problem (StateM Service) β

namespace Service

/-- A problem of the transport, which has its status in its code. -/
def transport (status : Nat) (message : String) : Problem :=
  .ofKind .general message ("http." ++ toString status) status

/-- There is nothing at a path. -/
def nowhere : Problem := transport 404
  ("The requested URL was not found on the server. " ++
    "If you entered the URL manually please check your spelling and try again.")

/-- A path does not take a method. -/
def methodNotTaken : Problem := transport 405 "The method is not allowed for the requested URL."

/-- A body is too large. -/
def tooLarge : Problem := transport 413 "The data value transmitted exceeds the capacity limit."

/-- A fault that is no problem of the request. -/
def hidden : Problem := .hidden "internal_error"

/-- A request that does not say what is needed. -/
def invalidRequest (message : String) (details : List (String × Json) := []) : Problem :=
  .ofKind .invalid message "calc.invalid_request" 400 details

/-- A payload that does not match its schema. -/
def invalidPayload (findings : List Finding) : Problem :=
  invalidRequest (Finding.summary findings) [("errors", .arr (findings.map Finding.toJson))]

/-- A session that expired or never was. -/
def noSession (id : String) : Problem :=
  .ofKind .notFound ("Session '" ++ id ++ "' expired or not found") "calc.session_not_found"

/-- A definition that has no value. -/
def ofFault : Fault → Problem
  | .error (.text e) => .ofKind .invalid e.message "calc.syntax_error"
  | .error cause => .ofKind .unprocessable cause.message "calc.evaluation_error"
  | _ => hidden

/-- The members of a body that a schema asks for. -/
def payload (schema : Schema) (r : Request) : Handler (List (String × Json)) := do
  let v ← match r.readBody (← get).configuration.bodyLimit with
    | .absent => pure (.obj [])
    | .json v => pure v
    | .tooLarge => throw tooLarge
    | .tooDeep => throw hidden
  match schema.readPayload v with
  | .ok members => return members
  | .error findings => throw (invalidPayload findings)

/-- The settings of the calculator, if they are sound. -/
def settings : Handler ServiceSettings := do
  match ServiceSettings.schema.readPayload (← get).configuration.settings with
  | .ok members => return ServiceSettings.ofMembers members
  | .error _ => throw hidden

/-- Sets the limits of the sessions. -/
def limitSessions (s : ServiceSettings) : Handler Unit := do
  match Span.ofMinutes s.idleMinutes with
  | .ok ttl => modify fun service => { service with pool := service.pool.configure ttl s.capacity }
  | .error _ => throw hidden

/-- The names that no unit set has. -/
def unknownUnitSets (names : List String) : List String :=
  names.filter fun n => (UnitSet.ofName? n).isNone

/-- Refuses names that no unit set has. -/
def checkUnitSets (names : Option (List String)) : Handler Unit := do
  match unknownUnitSets (names.getD []) with
  | [] => return
  | unknown => throw (invalidRequest ("Unknown unit set(s): " ++ String.intercalate ", " unknown))

/-- A new calculator; what a request leaves open the settings decide. -/
def newCalculator (s : ServiceSettings) (kind : Option ScalarKind)
    (unitSets : Option (List String)) : Except Fault AnyCalculator := do
  let own : Settings :=
    { answerVariable := .str s.answerVariable, maxCallDepth := .int s.callDepth }
  let names := unitSets.getD s.unitSets
  match kind.getD s.kind with
  | .real => return .real (← UnitSet.build own names)
  | .complex => return .complex (← UnitSet.build own names)

/-- A result, or the problem that there is none. -/
def orHidden {β : Type} (r : Except Fault β) : Handler β :=
  match r with
  | .ok v => pure v
  | .error _ => throw hidden

/-- Evaluates a text for a client. -/
def evaluation (text : String) (precision : Nat) {α : Type} [Scalar α] : Step α Json := do
  let outcome : Outcome α ← Calculator.evaluate text
  return outcome.describe text precision

/-- Works with the calculator of a session. -/
def inSession {β : Type} (clock : Clock) (id : String)
    (work : Session → Except Fault β × AnyCalculator) : Handler (Except Fault β) := do
  let service ← get
  let (result, pool) := service.pool.use id clock.second work clock.first
  set { service with pool }
  match result with
  | .ok v => return .ok v
  | .error .notFound => throw (noSession id)
  | .error (.fault cause) => return .error cause

/-- Starts a session with a calculator. -/
def start (clock : Clock) (calculator : AnyCalculator) (unitSets : List String) :
    Handler Reply := do
  let service ← get
  let started := service.started + 1
  let (result, pool) :=
    service.pool.create (service.idOf started) calculator unitSets clock.first clock.second
  set { service with pool, started }
  match result with
  | .ok session => return .success (.obj session.describe) 201
  | .error _ => throw hidden

/-- What the site says about itself. -/
def home : Handler Reply := do
  let c := (← get).configuration
  let about : Json := .obj [
    ("title", .str "Unit Calculator"),
    ("summary", c.summary.getD (.str
      ("Evaluate expressions that mix numbers and physical units, with " ++
        "variables, user functions, custom units and real or complex scalars."))),
    ("blueprint", .str Configuration.calculatorName),
    ("category", .str "General Utilities"),
    ("api", .str ("/api/" ++ Configuration.calculatorName))]
  match c.site with
  | .obj ms =>
    return .success (.obj [
      ("title", (Json.member? "title" ms).getD (.str "Unit Calculator")),
      ("plugins", .arr (if c.enabled then [about] else []))])
  | _ => throw hidden

/-- Evaluates a text in a calculator of its own. -/
def evaluateAlone (s : ServiceSettings) (e : Evaluation) : Handler Reply := do
  let a ← orHidden (newCalculator s e.kind e.unitSets)
  let data ← orHidden (a.run (evaluation e.text s.precision)).1
  return .success data 200 [("domain", .str a.kind.name)]

/-- Evaluates a text in a session, if its scalars are of the kind asked for. -/
def evaluateIn (clock : Clock) (id : String) (s : ServiceSettings) (e : Evaluation) :
    Handler Reply := do
  limitSessions s
  let work (session : Session) : Except Fault (ScalarKind × Option Json) × AnyCalculator :=
    let kind := session.calculator.kind
    if e.kind.any (· ≠ kind) then (.ok (kind, none), session.calculator)
    else
      let (r, a) := session.calculator.run (evaluation e.text s.precision)
      (r.map fun data => (kind, some data), a)
  match ← orHidden (← inSession clock id work) with
  | (kind, some data) =>
    return .success data 200 [("domain", .str kind.name), ("session_id", .str id)]
  | (kind, none) =>
    throw (invalidRequest ("Session '" ++ id ++ "' uses the " ++ kind.name ++ " domain"))

/-- Evaluates a text. -/
def evaluate (clock : Clock) (r : Request) : Handler Reply := do
  let e := Evaluation.ofMembers (← payload Evaluation.schema r)
  let s ← settings
  if s.longestText < (e.text.length : Int) then
    throw (invalidRequest
      ("Expressions are limited to " ++ toString s.longestText ++ " characters"))
  checkUnitSets e.unitSets
  match e.session with
  | none => evaluateAlone s e
  | some id => evaluateIn clock id s e

/-- Starts a session with a new calculator. -/
def newSession (clock : Clock) (r : Request) : Handler Reply := do
  let n := NewSession.ofMembers (← payload NewSession.schema r)
  checkUnitSets n.unitSets
  let s ← settings
  let a ← orHidden (newCalculator s n.kind n.unitSets)
  limitSessions s
  start clock a (n.unitSets.getD s.unitSets)

/-- Starts a session with the calculator of a snapshot. -/
def importSession (clock : Clock) (r : Request) : Handler Reply := do
  let members ← payload Payload.importSchema r
  match Snapshot.load ((Json.member? "snapshot" members).getD .null) with
  | .ok a =>
    limitSessions (← settings)
    start clock a []
  | .error (.error (.snapshot cause)) =>
    throw (.ofKind .general cause.message "calc.invalid_snapshot")
  | .error _ => throw hidden

/-- A view of the calculator of a session. -/
def listing (clock : Clock) (id : String)
    (view : {α : Type} → [Scalar α] → Calculator α → List (String × Json)) : Handler Reply := do
  limitSessions (← settings)
  let members ← orHidden (← inSession clock id fun s =>
    (.ok (s.calculator.get view), s.calculator))
  return .success (.obj (("session_id", .str id) :: members))

/-- A session. -/
def session (clock : Clock) (id : String) : Handler Reply := do
  limitSessions (← settings)
  let members ← orHidden (← inSession clock id fun s => (.ok s.describe, s.calculator))
  return .success (.obj members)

/-- Removes the session of an id from the pool. -/
def remove (id : String) : Handler Reply := do
  let service ← get
  let (removed, pool) := service.pool.delete id
  set { service with pool }
  if removed then return .success (.obj [("session_id", .str id), ("deleted", .bool true)])
  else throw (noSession id)

/-- Removes a session. -/
def delete (id : String) : Handler Reply := do
  limitSessions (← settings)
  remove id

/-- Defines a unit in a session. -/
def define (clock : Clock) (id : String)
    (step : {α : Type} → [Scalar α] → Step α (List (String × Json))) : Handler Reply := do
  limitSessions (← settings)
  match ← inSession clock id fun s => s.calculator.run step with
  | .ok members => return .success (.obj members) 201
  | .error fault => throw (ofFault fault)

/-- Defines an input unit and describes it. -/
def inputUnit (d : Definition) {α : Type} [Scalar α] : Step α (List (String × Json)) := do
  let q : Quantity α ← Calculator.defineInputUnit d.unit d.text
  return Listing.ofInputUnit d.unit q

/-- Defines an output unit and describes it. -/
def outputUnit (d : Definition) {α : Type} [Scalar α] : Step α (List (String × Json)) := do
  let u : OutputUnit α ← Calculator.defineOutputUnit (.ofSymbol d.unit) d.text
  return Listing.ofOutputUnit u

/-- The names of the kinds of scalars and the one that is meant if none is named. -/
def kinds : Handler Reply := do
  let s ← settings
  return .success (.obj [("domains", .arr (ScalarKind.all.map fun k => .str k.name)),
    ("default", .str s.kind.name)])

/-- The names of the unit sets and those that are meant if none are named. -/
def unitSets : Handler Reply := do
  let s ← settings
  return .success (.obj [("unit_sets", .arr (UnitSet.all.map fun u => .str u.name)),
    ("default", .arr (s.unitSets.map .str))])

/-- The reply at a route, which takes the method. -/
def atRoute (clock : Clock) (r : Request) (method : Method) : Route → Handler Reply
  | .home => home
  | .health => return .success (.obj [("status", .str "ok")])
  | .asset => throw nowhere
  | .kinds => kinds
  | .unitSets => unitSets
  | .evaluate => evaluate clock r
  | .newSession => newSession clock r
  | .importSession => importSession clock r
  | .session id =>
    match method with
    | .delete => delete id
    | _ => session clock id
  | .bindings id => listing clock id Listing.bindings
  | .units id => listing clock id Listing.units
  | .functions id => listing clock id Listing.functions
  | .snapshot id => listing clock id fun c => [("snapshot", Snapshot.ofCalculator c)]
  | .inputUnit id => do
    let d := Definition.ofMembers "name" (← payload Definition.inputSchema r)
    define clock id (inputUnit d)
  | .outputUnit id => do
    let d := Definition.ofMembers "unit" (← payload Definition.outputSchema r)
    define clock id (outputUnit d)

/-- The reply at a destination. -/
def atDestination (clock : Clock) (r : Request) : Destination → Handler Reply
  | .route route method => atRoute clock r method route
  | .options => return ⟨200, none⟩
  | .elsewhere => return ⟨308, none⟩
  | .methodNotTaken => throw methodNotTaken
  | .nowhere => throw nowhere

/-- Where a request leads. -/
def destination (c : Configuration) (r : Request) : Destination :=
  Destination.find c.enabled (Asking.ofWord r.method) (Target.segments r.target)

/-- What comes of a request, before it is put into a reply and the journal is taken. -/
def serve (service : Service) (clock : Clock) (r : Request) : Except Problem Reply × Service :=
  (atDestination clock r (destination service.configuration r)).run.run service

/-- The reply to a request, of which something came. -/
def replyTo (r : Request) (result : Except Problem Reply) : Reply :=
  let reply := match result with
    | .ok reply => reply
    | .error problem => .ofProblem problem
  match Asking.ofWord r.method with
  | .route _ true => { reply with body := none }
  | _ => reply

/-- Answers a request at a moment. The clock may go on before it is looked at once more. -/
def answer (service : Service) (now : Instant) (r : Request) (later : Instant := now) :
    Reply × Service :=
  let (result, after) := service.serve ⟨now, later⟩ r
  (replyTo r result, { after with pool := { after.pool with journal := [] } })

/-- The headers that every reply carries. -/
def headers : List (String × String) :=
  [("X-Content-Type-Options", "nosniff"), ("X-Frame-Options", "DENY"),
    ("Content-Security-Policy", "default-src 'none'; frame-ancestors 'none'"),
    ("Referrer-Policy", "no-referrer"), ("Cache-Control", "no-store")]

/-- The name of the header with the id of a request. -/
def idHeader : String := "X-Request-ID"

/-- The id that a request gives itself, if replies carry it. -/
def requestId? (service : Service) (r : Request) : Option String :=
  if service.configuration.traced then r.header? idHeader else none

end Service
end QuantityCalculus
