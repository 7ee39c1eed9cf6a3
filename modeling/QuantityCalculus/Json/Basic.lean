/-
# JSON values

A JSON value keeps integers apart from doubles and keeps the members of an object in
order. An object holds each name once: writing a name again replaces its value and keeps
its place (`put`).
-/

namespace QuantityCalculus

/-- A JSON value. -/
inductive Json where
  | null
  | bool (b : Bool)
  | int (n : Int)
  | float (x : Float)
  | str (s : String)
  | arr (items : List Json)
  | obj (members : List (String × Json))
deriving Inhabited

namespace Json

/-- Binds a name in a list of members: in its place if it is there, else at the end. -/
def put (name : String) (value : Json) : List (String × Json) → List (String × Json)
  | [] => [(name, value)]
  | (n, v) :: rest =>
    if n = name then (n, value) :: rest else (n, v) :: put name value rest

/-- The value of a name in a list of members. -/
def member? (name : String) (members : List (String × Json)) : Option Json :=
  (members.find? fun m => m.1 = name).map (·.2)

/-- The member of an object; other values have none. -/
def get? (name : String) : Json → Option Json
  | obj members => member? name members
  | _ => none

/-- Text or null. -/
def ofText? (s : Option String) : Json := (s.map str).getD null

/-- Whether a value counts as present: null, false, zero and everything empty do not. -/
def isPresent : Json → Bool
  | null => false
  | bool b => b
  | int n => n != 0
  | float x => x != 0
  | str s => s != ""
  | arr items => !items.isEmpty
  | obj members => !members.isEmpty

/-- A written name is bound. -/
theorem member?_put (name : String) (value : Json) (members : List (String × Json)) :
    member? name (put name value members) = some value := by
  induction members with
  | nil => simp [put, member?]
  | cons m rest ih =>
    obtain ⟨n, v⟩ := m
    by_cases h : n = name
    · simp [put, member?, h]
    · simpa [put, member?, h] using ih

/-- Writing a name leaves the other names alone. -/
theorem member?_put_of_ne {name other : String} (h : other ≠ name) (value : Json)
    (members : List (String × Json)) :
    member? other (put name value members) = member? other members := by
  induction members with
  | nil => simp [put, member?, h.symm]
  | cons m rest ih =>
    obtain ⟨n, v⟩ := m
    by_cases hn : n = name
    · subst hn; simp [put, member?, h.symm]
    · by_cases ho : n = other
      · subst ho; simp [put, member?, hn]
      · simpa [put, member?, hn, ho] using ih

end Json
end QuantityCalculus
