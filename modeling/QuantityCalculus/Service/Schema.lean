/-
# Schemas

A schema lists the members that an object may have, each with the shape of its value and,
unless it is required, the value it has when it is absent. Reading an object against a
schema gives the members in the order of the schema, or a finding for everything that is
wrong: first for the listed members, in order, then for the members that are not listed.

Texts lose the white space at their ends, also as items and as names of inner members. A
number may be written as a text, and a truth value counts as a number. A text that holds a
lone surrogate is no text.

**Main statement.** What is read has exactly the members that the schema lists
(`read_names`).
-/

import QuantityCalculus.Json.Basic
import QuantityCalculus.Number.Literal
import QuantityCalculus.Number.Rounding
import QuantityCalculus.Text.Surrogate

namespace QuantityCalculus

/-- What is wrong with a value. -/
inductive Complaint where
  | missing
  | unexpected
  | noObject (schema : String)
  | noText
  | brokenText
  | noList
  | noMembers
  | noneOf (words : List String)
  | noInteger
  | noIntegerText
  | integerTooLong
  | fraction
  | notFinite
  | below (least : Int)
  | above (most : Int)
  | noNumber
  | noNumberText
  | notAbove (bound : Int)
deriving Repr, DecidableEq

namespace Complaint

/-- Words in quotes with `or` before the last. -/
def alternatives : List String → String
  | [] => ""
  | [w] => "'" ++ w ++ "'"
  | [v, w] => "'" ++ v ++ "' or '" ++ w ++ "'"
  | w :: rest => "'" ++ w ++ "', " ++ alternatives rest

/-- The wording of a complaint. -/
def message : Complaint → String
  | missing => "Field required"
  | unexpected => "Extra inputs are not permitted"
  | noObject schema => "Input should be a valid dictionary or instance of " ++ schema
  | noText => "Input should be a valid string"
  | brokenText => "Input should be a valid string, unable to parse raw data as a unicode string"
  | noList => "Input should be a valid list"
  | noMembers => "Input should be a valid dictionary"
  | noneOf words => "Input should be " ++ alternatives words
  | noInteger => "Input should be a valid integer"
  | noIntegerText => "Input should be a valid integer, unable to parse string as an integer"
  | integerTooLong => "Unable to parse input string as an integer, exceeded maximum size"
  | fraction => "Input should be a valid integer, got a number with a fractional part"
  | notFinite => "Input should be a finite number"
  | below n => "Input should be greater than or equal to " ++ toString n
  | above n => "Input should be less than or equal to " ++ toString n
  | noNumber => "Input should be a valid number"
  | noNumberText => "Input should be a valid number, unable to parse string as a number"
  | notAbove n => "Input should be greater than " ++ toString n

/-- The word for a kind of complaint. -/
def code : Complaint → String
  | missing => "missing"
  | unexpected => "extra_forbidden"
  | noObject _ => "model_type"
  | noText => "string_type"
  | brokenText => "string_unicode"
  | noList => "list_type"
  | noMembers => "dict_type"
  | noneOf _ => "literal_error"
  | noInteger => "int_type"
  | noIntegerText => "int_parsing"
  | integerTooLong => "int_parsing_size"
  | fraction => "int_from_float"
  | notFinite => "finite_number"
  | below _ => "greater_than_equal"
  | above _ => "less_than_equal"
  | noNumber => "float_type"
  | noNumberText => "float_parsing"
  | notAbove _ => "greater_than"

end Complaint

/-- A complaint about the value at a place. -/
structure Finding where
  path : List String
  complaint : Complaint
deriving Repr, DecidableEq

namespace Finding

/-- The place of a finding in words. -/
def place (f : Finding) : String :=
  let joined := String.intercalate "." f.path
  if joined = "" then "body" else joined

/-- A finding for a client. -/
def toJson (f : Finding) : Json :=
  .obj [("field", .str f.place), ("message", .str f.complaint.message),
    ("type", .str f.complaint.code)]

/-- The places of all findings about a payload in one line. -/
def summary (fs : List Finding) : String :=
  "Invalid request payload (" ++ String.intercalate ", " (fs.map place) ++ ")"

end Finding

/-- What a value has to be. -/
inductive Shape where
  /-- a text -/
  | text
  /-- one of some words, exactly as they are written -/
  | oneOf (words : List String)
  /-- a list of texts -/
  | texts
  /-- an object with any values -/
  | members
  /-- an integer within bounds -/
  | integer (least : Int) (most : Option Int)
  /-- a number above a bound -/
  | numberAbove (bound : Int)
deriving Repr, DecidableEq

namespace Shape

open Number

/-- Whether a character is a digit other than zero. -/
def isLeading (c : Char) : Bool := '1' ≤ c && c ≤ '9'

/-- A number from its first digit other than zero on. Among the zeros in front of it
underscores may stand in any number; a number that has only zeros keeps the last one. -/
def dropZeros? (cs : List Char) : Option (List Char) :=
  let isPassed (c : Char) : Bool := c = '0' || c = '_'
  match cs, cs.dropWhile isPassed with
  | '0' :: _, c :: rest =>
    if isLeading c then some (c :: rest)
    else if c = '.' && (cs.takeWhile isPassed).getLast? = some '0' then some ('0' :: c :: rest)
    else none
  | '0' :: _, [] => if cs.getLast? = some '0' then some ['0'] else none
  | c :: _, _ => if isLeading c then some cs else none
  | [], _ => none

/-- A number without its fraction, which may hold only zeros and has at least one. -/
def dropFraction? (cs : List Char) : Option (List Char) :=
  match cs.dropWhile fun c => c ≠ '.' with
  | [] => some cs
  | _ :: places =>
    if !places.isEmpty && places.all (· = '0') then some (cs.takeWhile fun c => c ≠ '.') else none

/-- An integer that is written as ASCII digits with an optional sign, perhaps with a
fraction of zeros and with single underscores between digits. -/
def integerOfText (s : String) : Except Complaint Int :=
  let (negative, body) := takeSign (Text.strip s.toList)
  match (dropZeros? body).bind dropFraction? with
  | none => .error .noIntegerText
  | some whole =>
    if mostDigits < whole.length then .error .integerTooLong
    else if !(whole.all fun c => c.toNat < 128) then .error .noIntegerText
    else match readInteger? whole with
      | some n => .ok (if negative then -n else n)
      | none => .error .noIntegerText

/-- A double that stands for an integer of 64 bits. -/
def integerOfDouble (x : Float) : Except Complaint Int :=
  match ratio? x, truncate? x with
  | some r, some n =>
    if n * r.2 ≠ r.1 then .error .fraction
    else if n.natAbs < 0x8000000000000000 then .ok n
    else .error .integerTooLong
  | _, _ => .error .notFinite

/-- Refuses a text that holds a lone surrogate. -/
def sound (s : String) : Except Complaint String :=
  if Text.hasHalf s then .error .brokenText else .ok s

/-- The integer that a value stands for. -/
def toInteger : Json → Except Complaint Int
  | .int n => .ok n
  | .bool b => .ok (if b then 1 else 0)
  | .float x => integerOfDouble x
  | .str s => do integerOfText (← sound s)
  | _ => .error .noInteger

/-- Whether two underscores stand side by side. -/
def hasDoubleUnderscore : List Char → Bool
  | '_' :: '_' :: _ => true
  | _ :: rest => hasDoubleUnderscore rest
  | [] => false

/-- A text without its underscores, unless one stands at an end or beside another. -/
def withoutUnderscores? (cs : List Char) : Option (List Char) :=
  if cs.head? = some '_' || cs.getLast? = some '_' || hasDoubleUnderscore cs then none
  else some (cs.filter (· ≠ '_'))

/-- A number that is written in ASCII; underscores may stand anywhere inside the text. -/
def numberOfText? (s : String) : Option Float := do
  let cs := Text.strip (← withoutUnderscores? s.toList)
  if cs.all fun c => c.toNat < 128 then read? cs else none

/-- The number that a value stands for. -/
def toNumber : Json → Except Complaint Float
  | .float x => .ok x
  | .bool b => .ok (if b then 1.0 else 0.0)
  | .int n =>
    match ofInt? n with
    | some x => .ok x
    | none => .error .noNumber
  | .str s => do
    match numberOfText? (← sound s) with
    | some x => .ok x
    | none => .error .noNumberText
  | _ => .error .noNumber

/-- A text without the white space at its ends. -/
def toText : Json → Except Complaint Json
  | .str s => do return .str (Text.stripped (← sound s))
  | _ => .error .noText

/-- The texts of a list, or a finding for each item that is none. -/
def toTexts (path : List String) : Nat → List Json → Except (List Finding) (List Json)
  | _, [] => .ok []
  | n, v :: rest =>
    match toText v, toTexts path (n + 1) rest with
    | .ok t, .ok ts => .ok (t :: ts)
    | .ok _, .error es => .error es
    | .error c, .ok _ => .error [⟨path ++ [toString n], c⟩]
    | .error c, .error es => .error (⟨path ++ [toString n], c⟩ :: es)

/-- An integer within bounds. -/
def within (least : Int) (most : Option Int) (n : Int) : Except Complaint Json :=
  match most with
  | some m =>
    if m < n then .error (.above m)
    else if n < least then .error (.below least)
    else .ok (.int n)
  | none => if n < least then .error (.below least) else .ok (.int n)

/-- A finding at a place. -/
def located {β : Type} (path : List String) (r : Except Complaint β) : Except (List Finding) β :=
  r.mapError fun c => [⟨path, c⟩]

/-- A text in which three replacement characters, one for each byte, stand for a lone
surrogate. -/
def repaired (s : String) : String :=
  String.ofList (s.toList.flatMap fun c =>
    if (Text.half? c).isSome then List.replicate 3 '\uFFFD' else [c])

/-- A finding for each name of a member that is no text. -/
def brokenNames (path : List String) (members : List (String × Json)) : List Finding :=
  (members.filter fun m => Text.hasHalf m.1).map fun m =>
    ⟨path ++ [repaired m.1, "[key]"], .brokenText⟩

/-- The value that is read where a shape is asked for. -/
def read (path : List String) : Shape → Json → Except (List Finding) Json
  | text, v => located path (toText v)
  | oneOf words, v =>
    match v with
    | .str s => located path do
        if (← sound s) ∈ words then return v else throw (.noneOf words)
    | _ => located path (.error (.noneOf words))
  | texts, v =>
    match v with
    | .arr items => (toTexts path 0 items).map .arr
    | _ => located path (.error .noList)
  | members, v =>
    match v with
    | .obj ms =>
      match brokenNames path ms with
      | [] => .ok (.obj (ms.foldl (fun done m => Json.put (Text.stripped m.1) m.2 done) []))
      | es => .error es
    | _ => located path (.error .noMembers)
  | integer least most, v => located path do within least most (← toInteger v)
  | numberAbove bound, v => located path do
      let x ← toNumber v
      if x ≤ ofInt bound then throw (.notAbove bound)
      return .float x

end Shape

/-- A member that an object may have. -/
structure Member where
  name : String
  shape : Shape
  /-- the value when the member is absent; a required member has none -/
  absent : Option Json := none
  /-- whether null stands for no value -/
  nullable : Bool := false

/-- The value of a member in an object. -/
def Member.read (m : Member) (given : List (String × Json)) : Except (List Finding) Json :=
  match Json.member? m.name given with
  | none =>
    match m.absent with
    | some v => .ok v
    | none => .error [⟨[m.name], .missing⟩]
  | some v =>
    match m.nullable, v with
    | true, .null => .ok .null
    | _, _ => m.shape.read [m.name] v

/-- The members that an object may have, under a name for the whole. -/
structure Schema where
  name : String
  members : List Member

namespace Schema

/-- The values of listed members, or all findings about them. -/
def readMembers (given : List (String × Json)) :
    List Member → Except (List Finding) (List (String × Json))
  | [] => .ok []
  | m :: ms =>
    match m.read given, readMembers given ms with
    | .ok v, .ok vs => .ok ((m.name, v) :: vs)
    | .ok _, .error es => .error es
    | .error es, .ok _ => .error es
    | .error es, .error fs => .error (es ++ fs)

/-- A finding for each member that is not listed. -/
def unlisted (s : Schema) (given : List (String × Json)) : List Finding :=
  (given.filter fun m => s.members.all fun l => l.name ≠ m.1).map fun m => ⟨[m.1], .unexpected⟩

/-- The members of a value. A name that is no text is the only finding. -/
def read (s : Schema) (v : Json) : Except (List Finding) (List (String × Json)) :=
  match v with
  | .obj given =>
    if given.any fun m => Text.hasHalf m.1 then .error [⟨[], .brokenText⟩]
    else match readMembers given s.members, s.unlisted given with
    | .ok vs, [] => .ok vs
    | .ok _, es => .error es
    | .error es, fs => .error (es ++ fs)
  | _ => .error [⟨[], .noObject s.name⟩]

/-- The members of a payload, in which everything that is not present counts as an empty
object. -/
def readPayload (s : Schema) (payload : Json) : Except (List Finding) (List (String × Json)) :=
  s.read (if payload.isPresent then payload else .obj [])

/-- Listed members keep their names and their order. -/
theorem readMembers_names {given : List (String × Json)} {ms : List Member}
    {vs : List (String × Json)} (h : readMembers given ms = .ok vs) :
    vs.map Prod.fst = ms.map Member.name := by
  induction ms generalizing vs with
  | nil => simp only [readMembers, Except.ok.injEq] at h; simp [← h]
  | cons m ms ih =>
    unfold readMembers at h
    split at h <;> try cases h
    rename_i hvs
    simp [ih hvs]

/-- **What is read** has the members that the schema lists. -/
theorem read_names {s : Schema} {v : Json} {vs : List (String × Json)}
    (h : s.read v = .ok vs) : vs.map Prod.fst = s.members.map Member.name := by
  unfold read at h
  split at h
  · split at h
    · cases h
    · split at h <;> try cases h
      rename_i _ hvs
      exact readMembers_names hvs
  · cases h

end Schema
end QuantityCalculus
