/-
# Routes

A route is what a path leads to. A path may lead to two routes, of which the first that
takes the method is meant; no route takes every method, but all of them can be asked which
ones they take. A path with doubled slashes that leads nowhere is tried again with each
pair of slashes made one. The empty path lacks its slash.

**Main statement.** A session's own path is never empty (`id_ne_empty_of_mem`).
-/

import QuantityCalculus.Service.Configuration
import QuantityCalculus.Service.Target

namespace QuantityCalculus

/-- What a request can ask of a service. -/
inductive Method where
  | get
  | post
  | delete
deriving Repr, DecidableEq

/-- What a path leads to. -/
inductive Route where
  | home
  | health
  | asset
  | kinds
  | unitSets
  | evaluate
  | newSession
  | importSession
  | session (id : String)
  | bindings (id : String)
  | units (id : String)
  | functions (id : String)
  | snapshot (id : String)
  | inputUnit (id : String)
  | outputUnit (id : String)
deriving Repr, DecidableEq

namespace Route

/-- The methods that a route takes. -/
def methods : Route → List Method
  | home | health | asset | kinds | unitSets => [.get]
  | evaluate | newSession | importSession => [.post]
  | session _ => [.get, .delete]
  | bindings _ | units _ | functions _ | snapshot _ => [.get]
  | inputUnit _ | outputUnit _ => [.post]

/-- The routes of a session, by what follows its id. -/
def ofSession (id : String) (rest : List String) : List Route :=
  if id = "" then []
  else match rest with
    | [] => [.session id]
    | ["variables"] => [.bindings id]
    | ["units"] => [.units id]
    | ["functions"] => [.functions id]
    | ["export"] => [.snapshot id]
    | ["units", "input"] => [.inputUnit id]
    | ["units", "output"] => [.outputUnit id]
    | _ => []

/-- The routes below the calculator's own path. -/
def ofCalculator : List String → List Route
  | ["domains"] => [.kinds]
  | ["unit-sets"] => [.unitSets]
  | ["evaluate"] => [.evaluate]
  | ["sessions"] => [.newSession]
  | ["sessions", "import"] => [.importSession, .session "import"]
  | "sessions" :: id :: rest => ofSession id rest
  | _ => []

/-- The routes that a path leads to, the one that is meant first of all in front. -/
def all (enabled : Bool) : List String → List Route
  | [""] => [.home]
  | ["healthz"] => [.health]
  | "static" :: file :: _ => if file = "" then [] else [.asset]
  | "api" :: name :: rest =>
    if enabled ∧ name = Configuration.calculatorName then ofCalculator rest else []
  | _ => []

/-- A session that a path leads to has an id. -/
theorem id_ne_empty_of_mem {id id' : String} {rest : List String}
    (h : .session id' ∈ ofSession id rest) :
    id' ≠ "" := by
  unfold ofSession at h
  split at h
  · cases h
  · split at h <;> simp_all

end Route

/-- What a method asks for. -/
inductive Asking where
  /-- the route itself, perhaps without the body of its reply -/
  | route (method : Method) (silent : Bool)
  /-- which methods there are -/
  | options
  /-- something that no route takes -/
  | other

/-- What the word for a method asks for. -/
def Asking.ofWord (word : String) : Asking :=
  match word.toUpper with
  | "GET" => .route .get false
  | "HEAD" => .route .get true
  | "POST" => .route .post false
  | "DELETE" => .route .delete false
  | "OPTIONS" => .options
  | _ => .other

/-- Where a request leads. -/
inductive Destination where
  | route (route : Route) (method : Method)
  /-- a route that is asked for its methods -/
  | options
  /-- the same path with single slashes, or with the slash that it lacks -/
  | elsewhere
  | methodNotTaken
  | nowhere
deriving Repr, DecidableEq

namespace Destination

/-- The destination among some routes, if one of them takes what is asked for. -/
def among? (asking : Asking) (routes : List Route) : Option Destination :=
  match asking with
  | .route m _ => (routes.find? fun r => m ∈ r.methods).map fun r => .route r m
  | .options => if routes.isEmpty then none else some .options
  | .other => none

/-- The segments of a path in which each pair of slashes is made one. -/
def merged : List String → List String
  | a :: "" :: b :: rest => a :: merged (b :: rest)
  | a :: rest => a :: merged rest
  | [] => []

/-- Where a path leads. -/
def find (enabled : Bool) (asking : Asking) : List String → Destination
  | [] => if (among? asking [.home]).isSome then .elsewhere else .nowhere
  | segments =>
    let routes := Route.all enabled segments
    let others := Route.all enabled (merged segments)
    match among? asking routes with
    | some d => d
    | none =>
      match among? asking others with
      | some _ => .elsewhere
      | none => if routes.isEmpty ∧ others.isEmpty then .nowhere else .methodNotTaken

end Destination
end QuantityCalculus
