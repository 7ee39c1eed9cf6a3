/-
# Requests

A request names a method and a target and may carry a body. Only a body that is declared
as JSON is read as JSON; one that cannot be read is like none.
-/

import QuantityCalculus.Json.Bytes

namespace QuantityCalculus

/-- A request as it is received. -/
structure Request where
  method : String
  target : String
  contentType : String := "application/json"
  body : String := ""
  headers : List (String × String) := []

/-- What came of reading a body. -/
inductive Body where
  | absent
  | json (value : Json)
  /-- more bytes than are taken -/
  | tooLarge
  /-- nested too deeply to be read -/
  | tooDeep

namespace Request

/-- A header by its name in any case. -/
def header? (r : Request) (name : String) : Option String :=
  (r.headers.find? fun h => h.1.toLower = name.toLower).map Prod.snd

/-- The type of a body without its parameters, in small letters. -/
def mediaType (r : Request) : String :=
  (Text.trimmed (String.ofList (r.contentType.toList.takeWhile fun c => c ≠ ';'))).toLower

/-- Whether a body is declared as JSON. -/
def isJson (r : Request) : Bool :=
  let t := r.mediaType
  t == "application/json" || (t.startsWith "application/" && t.endsWith "+json")

/-- Reads the body of a request that may have so many bytes. -/
def readBody (limit : Int) (r : Request) : Body :=
  if !r.isJson then .absent
  else if limit < (r.body.utf8ByteSize : Int) then .tooLarge
  else match Json.readBytes r.body.toUTF8 with
    | .ok v => .json v
    | .error .tooDeep => .tooDeep
    | .error _ => .absent

end Request
end QuantityCalculus
