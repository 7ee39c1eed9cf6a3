/-
# Problems and replies

A problem is what a service answers in place of a result: a message for the reader, a code
and a status for the client, and details. A reply is a status with a JSON body; the body
of a success holds the data and, if there is any, data about the data.
-/

import QuantityCalculus.Json.Basic

namespace QuantityCalculus

/-- The kinds of problems. -/
inductive ProblemKind where
  | general
  | invalid
  | notFound
  | unprocessable
  | internal
deriving Repr, DecidableEq

/-- The code of a kind of problem that has no closer one. -/
def ProblemKind.code : ProblemKind → String
  | general => "error"
  | invalid => "validation_error"
  | notFound => "not_found"
  | unprocessable => "unprocessable"
  | internal => "internal_error"

/-- The status of a kind of problem. -/
def ProblemKind.status : ProblemKind → Int
  | general | invalid => 400
  | notFound => 404
  | unprocessable => 422
  | internal => 500

/-- What is answered in place of a result. -/
structure Problem where
  message : String
  code : String
  status : Int
  details : List (String × Json)

namespace Problem

/-- A problem of a kind, with the kind's code and status unless others are given. -/
def ofKind (kind : ProblemKind) (message : String) (code : String := kind.code)
    (status : Int := kind.status) (details : List (String × Json) := []) : Problem :=
  ⟨message, code, status, details⟩

/-- An unexpected fault, whose nature is not told. -/
def hidden (code : String) : Problem := ofKind .internal "Internal server error" code

/-- A problem for a client. -/
def toMembers (p : Problem) : List (String × Json) :=
  [("code", .str p.code), ("message", .str p.message), ("details", .obj p.details)]

end Problem

/-- A status and a body; some replies have none. -/
structure Reply where
  status : Int
  body : Option Json

namespace Reply

/-- The reply to a success. -/
def success (data : Json) (status : Int := 200) (about : List (String × Json) := []) : Reply :=
  let body := [("success", .bool true), ("data", data)]
  ⟨status, some (.obj (if about.isEmpty then body else body ++ [("meta", .obj about)]))⟩

/-- The reply to a failure, told by the members of an object. -/
def failure (error : List (String × Json)) (status : Int := 400) : Reply :=
  ⟨status, some (.obj [("success", .bool false), ("error", .obj error)])⟩

/-- The reply to a problem. -/
def ofProblem (p : Problem) : Reply := failure p.toMembers p.status

end Reply
end QuantityCalculus
