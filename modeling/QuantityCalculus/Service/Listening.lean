/-
# Where a service listens

A service listens at a number from 1 to 65535. One of two variables of the environment
holds it as text; an empty variable counts as absent.

**Main statement.** A number that is read from a text lies in that range (`read_range`).
-/

import QuantityCalculus.Number.Literal

namespace QuantityCalculus
namespace Listening

/-- Why there is no number to listen at. -/
inductive Trouble where
  | noNumber (text : String)
  | outOfRange (number : Int)
deriving Repr, DecidableEq

/-- The wording of a refused number. -/
def Trouble.message : Trouble → String
  | noNumber t => "Invalid port '" ++ t ++ "'. Set UNITCALC_PORT to a number."
  | outOfRange n => "Port " ++ toString n ++ " is out of range."

/-- The number without any setting. -/
def standard : String := "5002"

/-- The first text that is there and not empty, else the standard number. -/
def chosen (own general : Option String) : String :=
  ([own, general].filterMap id |>.find? fun t => t ≠ "").getD standard

/-- The number that a text holds. -/
def read (text : String) : Except Trouble Nat :=
  match Number.readInteger? text.toList with
  | none => .error (.noNumber text)
  | some n => if 0 < n ∧ n < 65536 then .ok n.toNat else .error (.outOfRange n)

/-- A number that is read can be listened at. -/
theorem read_range {text : String} {n : Nat} (h : read text = .ok n) : 0 < n ∧ n < 65536 := by
  unfold read at h
  split at h
  · cases h
  · split at h
    · cases h; omega
    · cases h

/-- The number for an environment, in which the service's own variable goes before the
general one. -/
def resolve (own general : Option String) : Except Trouble Nat := read (chosen own general)

end Listening
end QuantityCalculus
