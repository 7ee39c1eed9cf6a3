/-
# Decimal numbers of 28 digits

A decimal number is a coefficient times a power of ten, so `1e-3` and `8` multiply without
leaving the decimal system. A product is rounded to 28 significant digits, a half going to
the even digit. It is written positionally as long as it has no zeros to add and at most
six leading ones, else with an exponent.

**Main statement.** A product of few enough digits is exact (`fix_of_short`).
-/

import QuantityCalculus.Number.Literal
import QuantityCalculus.Number.Notation

namespace QuantityCalculus
namespace Number

/-- A decimal number as it is written. -/
inductive Scientific where
  | finite (negative : Bool) (coefficient : Nat) (exponent : Int)
  | infinite (negative : Bool)
  | nan (negative : Bool) (payload : List Char)
  | signalling
deriving Repr, DecidableEq

/-- Why a decimal operation has no result. -/
inductive ScientificTrouble where
  | malformed
  | overflow
deriving Repr, DecidableEq

namespace Scientific

/-- The significant digits of a product. -/
def precision : Nat := 28

/-- The greatest exponent of a leading digit. -/
def greatest : Int := 999999

/-- The least exponent of a last digit. -/
def least : Int := -999999 - precision + 1

/-- The characters with digits of any script written as ASCII digits. -/
def plainDigits (cs : List Char) : List Char :=
  cs.map fun c => match Text.digitValue? c with
    | some d => Char.ofNat (48 + d)
    | none => c

/-- The value of a run of ASCII digits. -/
def natOf (ds : List Char) : Nat := ds.foldl (fun n c => 10 * n + (c.toNat - 48)) 0

/-- The exponent after a coefficient: nothing, or the letter `e` with a signed number. -/
def exponentOf? : List Char → Option Int
  | [] => some 0
  | c :: rest =>
    if c = 'e' ∨ c = 'E' then
      let (negative, ds) := takeSign rest
      if ds.isEmpty || !ds.all Char.isDigit then none
      else some (if negative then -(natOf ds : Int) else natOf ds)
    else none

/-- A number without its sign. -/
def unsigned? (negative : Bool) (cs : List Char) : Option Scientific :=
  let word := String.ofList (cs.map Char.toLower)
  if word = "inf" ∨ word = "infinity" then some (.infinite negative)
  else if cs.length ≥ 4 ∧ (word.take 4).toString = "snan" then
    if (cs.drop 4).all Char.isDigit then some .signalling else none
  else if cs.length ≥ 3 ∧ (word.take 3).toString = "nan" then
    if (cs.drop 3).all Char.isDigit then some (.nan negative ((cs.drop 3).dropWhile (· = '0')))
    else none
  else
    let whole := cs.takeWhile Char.isDigit
    let rest := cs.dropWhile Char.isDigit
    let (places, rest) := match rest with
      | '.' :: after => (after.takeWhile Char.isDigit, after.dropWhile Char.isDigit)
      | _ => ([], rest)
    if whole.isEmpty && places.isEmpty then none
    else (exponentOf? rest).map fun e =>
      .finite negative (natOf (whole ++ places)) (e - places.length)

/-- The decimal number that a text stands for; underscores and outer blanks are ignored. -/
def read? (text : String) : Option Scientific :=
  let cs := (plainDigits (Text.trim text.toList)).filter (· != '_')
  let (negative, body) := takeSign cs
  unsigned? negative body

/-- A coefficient and exponent rounded to 28 digits and to the range of exponents. -/
def fix (coefficient : Nat) (exponent : Int) : Except ScientificTrouble (Nat × Int) :=
  let size : Int := (decimal coefficient).length
  let last := max (exponent + size - precision) least
  if coefficient = 0 then .ok (0, min (max exponent least) greatest)
  else if greatest < exponent + size - 1 then .error .overflow
  else if last ≤ exponent then .ok (coefficient, exponent)
  else
    let dropped := (last - exponent).toNat
    let rounded := if size < dropped then 0 else roundHalfEven coefficient (Nat.pow 10 dropped)
    if rounded = Nat.pow 10 precision then
      if greatest < last + precision then .error .overflow
      else .ok (Nat.pow 10 (precision - 1), last + 1)
    else .ok (rounded, last)

/-- **A number of few digits** is not rounded. -/
theorem fix_of_short {coefficient : Nat} {exponent : Int} (h : coefficient ≠ 0)
    (low : least ≤ exponent) (high : exponent + (decimal coefficient).length - 1 ≤ greatest)
    (short : (decimal coefficient).length ≤ precision) :
    fix coefficient exponent = .ok (coefficient, exponent) := by
  unfold fix
  have h1 : ¬greatest < exponent + (decimal coefficient).length - 1 := by omega
  have h2 : max (exponent + (decimal coefficient).length - precision) least ≤ exponent := by omega
  simp only [h, if_false, h1, h2, if_true]

/-- The last digits of a NaN's payload, as many as a number has, without zeros in front. -/
def shortPayload (payload : List Char) : List Char :=
  (payload.drop (payload.length - precision)).dropWhile (· = '0')

/-- The product of two decimal numbers. -/
def mul (a b : Scientific) : Except ScientificTrouble Scientific :=
  match a, b with
  | .signalling, _ | _, .signalling => .error .malformed
  | .nan s p, _ => .ok (.nan s (shortPayload p))
  | _, .nan s p => .ok (.nan s (shortPayload p))
  | .infinite s, .finite t c _ => if c = 0 then .error .malformed else .ok (.infinite (s != t))
  | .finite s c _, .infinite t => if c = 0 then .error .malformed else .ok (.infinite (s != t))
  | .infinite s, .infinite t => .ok (.infinite (s != t))
  | .finite s c e, .finite t d f => do
    let (coefficient, exponent) ← fix (c * d) (e + f)
    return .finite (s != t) coefficient exponent

/-- Digits with a point after the first `places` of them; zeros go in front if needed. -/
def pointed (ds : List Char) (places : Int) : List Char :=
  if 0 < places then ds.take places.toNat ++ '.' :: ds.drop places.toNat
  else '0' :: '.' :: (List.replicate (-places).toNat '0' ++ ds)

/-- A coefficient and exponent as text. -/
def magnitude (coefficient : Nat) (exponent : Int) : List Char :=
  let ds := decimal coefficient
  let leading := exponent + ds.length - 1
  if exponent = 0 then ds
  else if exponent < 0 ∧ -6 ≤ leading then pointed ds (exponent + ds.length)
  else
    let body := match ds with
      | [] => []
      | [d] => [d]
      | d :: more => d :: '.' :: more
    let sign := if leading < 0 then '-' else '+'
    body ++ 'E' :: sign :: decimal leading.natAbs

/-- A decimal number as text. -/
def text : Scientific → String
  | .finite negative c e => signed negative (magnitude c e)
  | .infinite negative => signed negative "Infinity".toList
  | .nan negative payload => signed negative ("NaN".toList ++ payload)
  | .signalling => "sNaN"

end Scientific
end Number
end QuantityCalculus
