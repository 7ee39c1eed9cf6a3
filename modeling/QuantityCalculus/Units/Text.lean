/-
# Units as text

A unit is written with its positive powers first and its negative powers after them, each
group in ascending order of symbols, separated by spaces: `kg m^2 s^-2`. A fractional
exponent is written in parentheses: `m^(1/2)`.
-/

import QuantityCalculus.Units.Basic
import QuantityCalculus.Text.Quoted

namespace QuantityCalculus
namespace Units

/-- A rational number: an integer alone, else numerator and denominator. -/
def ratText (q : Rat) : String :=
  if q.den = 1 then toString q.num else toString q.num ++ "/" ++ toString q.den

/-- An exponent as it stands after `^`. -/
def exponentText (q : Rat) : String :=
  if q.den = 1 then toString q.num else "(" ++ ratText q ++ ")"

/-- A symbol to a power; the first power is the symbol alone. -/
def factorText (f : String × Rat) : String :=
  if f.2 = 1 then f.1 else f.1 ++ "^" ++ exponentText f.2

/-- The factors in the order they are written in: positive exponents, then negative ones. -/
def written (u : Units) : List (String × Rat) :=
  u.factors.filter (fun f => !decide (f.2 < 0)) ++ u.factors.filter (fun f => decide (f.2 < 0))

/-- A unit as text; without dimension it is empty. -/
def text (u : Units) : String := String.intercalate " " (u.written.map factorText)

/-- A unit with its symbols in quotes, in the order they are kept in. -/
def shown (u : Units) : String :=
  "Unit(\x7b" ++
    String.intercalate ", " (u.factors.map fun f => Text.quoted f.1 ++ ": " ++ ratText f.2) ++
      "\x7d)"

end Units
end QuantityCalculus
