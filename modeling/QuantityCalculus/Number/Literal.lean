/-
# Reading a double from text

The grammar of a number: an optional sign, then digits with an optional point and an
optional exponent, or one of the words `inf`, `infinity` and `nan` in any case. Digits
may be of any script, a single underscore may stand between two digits, and white
space around the number is ignored. The value is the double nearest to the decimal; beyond
the largest double it is infinite.

**Main statements.** The digits taken from a text are digits (`takeDigits_lt`), and as many
characters are gone as digits were taken (`takeDigits_length`).
-/

import QuantityCalculus.Number.Binary
import QuantityCalculus.Text.Blank
import QuantityCalculus.Text.Numeral

namespace QuantityCalculus
namespace Number

open Text

/-- The value of a list of decimal digits. -/
def digitsValue (ds : List Nat) : Nat := ds.foldl (fun n d => 10 * n + d) 0

/-- The longest run of digits at the start of a text, and what follows it. -/
def takeDigits : List Char → List Nat × List Char
  | [] => ([], [])
  | c :: rest =>
    match digitValue? c with
    | some d => let r := takeDigits rest; (d :: r.1, r.2)
    | none => ([], c :: rest)

/-- The digits taken are digits. -/
theorem takeDigits_lt (cs : List Char) : ∀ d ∈ (takeDigits cs).1, d < 10 := by
  induction cs with
  | nil => simp [takeDigits]
  | cons c rest ih =>
    unfold takeDigits
    split
    · rename_i d hd
      simp only [List.mem_cons, forall_eq_or_imp]
      exact ⟨digitValue?_lt hd, ih⟩
    · simp

/-- As many characters are gone as digits were taken. -/
theorem takeDigits_length (cs : List Char) :
    (takeDigits cs).1.length + (takeDigits cs).2.length = cs.length := by
  induction cs with
  | nil => simp [takeDigits]
  | cons c rest ih =>
    unfold takeDigits
    split
    · simp only [List.length_cons]; omega
    · simp

/-- The text with its underscores removed, each of which must stand between two digits. -/
def dropUnderscores? (afterDigit : Bool) : List Char → Option (List Char)
  | [] => some []
  | '_' :: c :: rest =>
    if afterDigit && isDigit c then (dropUnderscores? true rest).map (c :: ·) else none
  | c :: rest => if c = '_' then none else (dropUnderscores? (isDigit c) rest).map (c :: ·)

/-- The double nearest to `digits * 10 ^ exponent`; magnitudes far outside the range are
not computed. -/
def ofDecimal (negative : Bool) (digits : Nat) (exponent : Int) : Float :=
  let length : Int := (Nat.toDigits 10 digits).length
  if digits = 0 then ofRatio negative 0 1
  else if 400 < length + exponent then if negative then -infinity else infinity
  else if length + exponent < -400 then ofRatio negative 0 1
  else ofRatio negative (digits * Nat.pow 10 exponent.toNat) (Nat.pow 10 (-exponent).toNat)

/-- An optional sign and what follows it. -/
def takeSign : List Char → Bool × List Char
  | '-' :: rest => (true, rest)
  | '+' :: rest => (false, rest)
  | cs => (false, cs)

/-- An exponent that ends the text: nothing, or a letter `e`, an optional sign and digits. -/
def exponent? : List Char → Option Int
  | [] => some 0
  | c :: rest =>
    if c = 'e' ∨ c = 'E' then
      let (negative, body) := takeSign rest
      match takeDigits body with
      | ([], _) => none
      | (ds, []) => some (if negative then -(digitsValue ds : Int) else digitsValue ds)
      | _ => none
    else none

/-- The fraction after a point, and what follows it; without a point it is empty. -/
def takeFraction : List Char → List Nat × List Char
  | '.' :: rest => takeDigits rest
  | cs => ([], cs)

/-- A decimal number without its sign: digits, an optional point and an optional exponent. -/
def unsigned? (negative : Bool) (cs : List Char) : Option Float :=
  let whole := takeDigits cs
  let fraction := takeFraction whole.2
  if whole.1.isEmpty && fraction.1.isEmpty then none
  else (exponent? fraction.2).map fun e =>
    ofDecimal negative (digitsValue (whole.1 ++ fraction.1)) (e - fraction.1.length)

/-- Whether a text is a word when the case of ASCII letters is ignored. -/
def isWord (word : String) (cs : List Char) : Bool := cs.map Char.toLower == word.toList

/-- A double written with ASCII or other decimal digits, or one of the words for the
values that have none. -/
def read? (text : List Char) : Option Float := do
  let (negative, body) := takeSign (← dropUnderscores? false (strip text))
  if isWord "inf" body || isWord "infinity" body then
    return if negative then -infinity else infinity
  if isWord "nan" body then return nan
  unsigned? negative body

/-- The most digits that an integer is read with. -/
def mostDigits : Nat := 4300

/-- An integer: an optional sign and digits, under the same rules for underscores and white
space as a double. -/
def readInteger? (text : List Char) : Option Int := do
  let (negative, body) := takeSign (← dropUnderscores? false (strip text))
  match takeDigits body with
  | (ds, []) =>
    if ds.isEmpty || mostDigits < ds.length then none
    else some (if negative then -(digitsValue ds : Int) else digitsValue ds)
  | _ => none

end Number
end QuantityCalculus
