/-
# Configuration

A service is configured by an object with three parts: what the site shows, how it logs
and what the calculator is set to. A part that is not present counts as empty. The
surroundings may name a profile, which fixes the largest body and may fix the log level.
-/

import QuantityCalculus.Log
import QuantityCalculus.Number.Rounding

namespace QuantityCalculus

/-- What the surroundings fix. -/
structure Profile where
  /-- the level of the logs, if it is fixed -/
  level : Option String

namespace Profile

/-- A profile that leaves the log level open. -/
def base : Profile := ⟨none⟩

/-- A profile for trials, which logs warnings only. -/
def testing : Profile := ⟨some "WARNING"⟩

end Profile

/-- How a service is set up. -/
structure Configuration where
  /-- what the site shows about itself -/
  site : Json
  /-- the settings of the calculator as they were given -/
  settings : Json
  /-- whether there is a calculator at all -/
  enabled : Bool
  /-- what the calculator says about itself, if that is not left to it -/
  summary : Option Json
  /-- the most bytes of a body -/
  bodyLimit : Int
  /-- whether replies carry the id of their request -/
  traced : Bool

namespace Configuration

/-- The name of the calculator among the parts of a service. -/
def calculatorName : String := "unit_calculator"

/-- The most bytes of a body where nothing else is said. -/
def standardLimit : Int := 1048576

/-- A member that is present, or an empty object. -/
def part (name : String) (members : List (String × Json)) : Json :=
  match Json.member? name members with
  | some v => if v.isPresent then v else .obj []
  | none => .obj []

/-- The members of an object. -/
def membersOf : Json → Except Fault (List (String × Json))
  | .obj ms => .ok ms
  | _ => .error .notObject

/-- The bytes in a number of kilobytes; a value that is no number says nothing. -/
def bytesOf (kilobytes : Json) : Except Fault (Option Int) :=
  let bytes (x : Float) : Except Fault (Option Int) :=
    match Number.truncate? (x * 1024) with
    | some n => .ok (some n)
    | none => if x == x then .error .overflow else .ok none
  match kilobytes with
  | .float x => bytes x
  | .bool b => bytes (if b then 1 else 0)
  | .int n =>
    match Number.ofInt? n with
    | some x => bytes x
    | none => .error .overflow
  | .str s =>
    match Number.read? s.toList with
    | some x => bytes x
    | none => .ok none
  | _ => .ok none

/-- The member of a site with the largest body, in kilobytes. -/
def limitName : String := "max_content_length_kb"

/-- Whether a text stands somewhere in another. -/
def occursIn (word : List Char) : List Char → Bool
  | [] => word.isEmpty
  | c :: rest => word.isPrefixOf (c :: rest) || occursIn word rest

/-- The largest body that a site allows. A site that is no object allows the standard one,
unless it mentions the member. -/
def siteLimit (site : Json) : Except Fault Int := do
  match site with
  | .obj ms =>
    match Json.member? limitName ms with
    | some v => return (← bytesOf v).getD standardLimit
    | none => return standardLimit
  | .arr items =>
    if items.any fun v => v.plain = limitName then throw (.wrongType "a list has no names")
    return standardLimit
  | .str s =>
    if occursIn limitName.toList s.toList then throw (.wrongType "a text has no names")
    return standardLimit
  | _ => throw (.wrongType "a site that holds nothing")

/-- The level of the logs. -/
def logLevel (profile : Option Profile) (logging : Json) : Except Fault Json := do
  match profile.bind Profile.level with
  | some word => Log.level (.str word)
  | none => Log.level ((Json.member? "level" (← membersOf logging)).getD Log.defaultLevel)

/-- The configuration that a value stands for; a value that is not present is empty. -/
def read (profile : Option Profile) (content : Json) : Except Fault Configuration := do
  let ms ← membersOf (if content.isPresent then content else .obj [])
  let site := part "site" ms
  let limit ← siteLimit site
  let logging := part "logging" ms
  discard (logLevel profile logging)
  let requests := (Json.member? "requests" (← membersOf logging)).getD (.bool true)
  let settings := part calculatorName (← membersOf (part "plugins" ms))
  let own ← membersOf settings
  let summary := (Json.member? "summary" own).bind fun v => if v.isPresent then some v else none
  return {
    site, settings, summary
    enabled := match Json.member? "enabled" own with
      | some (.bool false) => false
      | _ => true
    bodyLimit := if profile.isSome then standardLimit else limit
    traced := requests.isPresent }

/-- The content of the configuration that comes with the service. -/
def stock : Json := .obj [
  ("site", .obj [("title", .str "Unit Calculator"), (limitName, .int 512)]),
  ("logging", .obj [("level", .str "INFO"), ("requests", .bool true)]),
  ("plugins", .obj [(calculatorName, .obj [
    ("enabled", .bool true), ("default_domain", .str "real"),
    ("unit_sets", .arr [.str "common"]), ("answer_variable", .str "ans"),
    ("max_expression_length", .int 1000), ("max_call_depth", .int 64),
    ("session_ttl_minutes", .int 30), ("max_sessions", .int 256), ("precision", .int 12)])])]

end Configuration
end QuantityCalculus
