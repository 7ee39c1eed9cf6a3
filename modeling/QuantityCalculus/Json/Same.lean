/-
# Equal values

Numbers are equal by value, whichever way they are written, and a truth value counts as
one or zero. Lists are equal item by item, objects member by member in any order; a NaN
equals nothing.

**Main statement.** Texts are equal only to themselves (`same_str_iff`).
-/

import QuantityCalculus.Json.Basic
import QuantityCalculus.Number.Binary

namespace QuantityCalculus
namespace Json

/-- The number that a value stands for; true and false count as one and zero. -/
def number? : Json → Option Rat
  | bool b => some (if b then 1 else 0)
  | int n => some n
  | float x => Number.toRat? x
  | _ => none

mutual

/-- Whether two values are equal. -/
def same : Json → Json → Bool
  | null, null => true
  | str s, str t => s == t
  | float x, float y => x == y
  | arr xs, arr ys => sameItems xs ys
  | obj ms, obj ns => ms.length == ns.length && sameMembers ms ns
  | a, b =>
    match number? a, number? b with
    | some x, some y => x == y
    | _, _ => false

/-- Whether two lists are equal item by item. -/
def sameItems : List Json → List Json → Bool
  | [], [] => true
  | x :: xs, y :: ys => same x y && sameItems xs ys
  | _, _ => false

/-- Whether an object has equal values for all of some members. -/
def sameMembers : List (String × Json) → List (String × Json) → Bool
  | [], _ => true
  | (n, v) :: rest, ns =>
    (match member? n ns with
      | some w => same v w
      | none => false) && sameMembers rest ns

end

/-- **Texts** are equal only to themselves. -/
theorem same_str_iff {s : String} {v : Json} : same (.str s) v = true ↔ .str s = v := by
  cases v <;> simp [same, number?]

end Json
end QuantityCalculus
