/-
# Reading JSON

The reader takes the standard grammar with three words more, `NaN`, `Infinity` and
`-Infinity`. A number without point and exponent is an integer, of as many digits as
integers are read with. Of two members with one name the later value wins and the earlier
place is kept. Half of a surrogate pair that stands alone is read as the private character
that it is kept as.

A text is refused with the cause that stands at its first wrong character. Nesting is
bounded by `deepest`, so that every text has an answer.
-/

import QuantityCalculus.Json.Basic
import QuantityCalculus.Number.Literal
import QuantityCalculus.Text.Surrogate

namespace QuantityCalculus
namespace Json

open Number

/-- Why a text is no JSON value. -/
inductive ReadError where
  | byteOrderMark
  | undecodable
  | expectedValue
  | extraData
  | expectedComma
  | expectedColon
  | expectedName
  | unterminatedString
  | controlCharacter
  | badEscape
  | badCodePoint
  | integerTooLong (digits : Nat)
  | tooDeep
deriving Repr, DecidableEq

/-- The wording of a refusal. -/
def ReadError.message : ReadError → String
  | byteOrderMark => "Unexpected UTF-8 BOM (decode using utf-8-sig)"
  | undecodable => "Bytes that are no text"
  | expectedValue => "Expecting value"
  | extraData => "Extra data"
  | expectedComma => "Expecting ',' delimiter"
  | expectedColon => "Expecting ':' delimiter"
  | expectedName => "Expecting property name enclosed in double quotes"
  | unterminatedString => "Unterminated string starting at"
  | controlCharacter => "Invalid control character at"
  | badEscape => "Invalid \\escape"
  | badCodePoint => "Invalid \\uXXXX escape"
  | integerTooLong n =>
    "Exceeds the limit (" ++ toString mostDigits ++ " digits) for integer string conversion: " ++
      "value has " ++ toString n ++
      " digits; use sys.set_int_max_str_digits() to increase the limit"
  | tooDeep => "nested too deeply"

/-! A reading step gives a result and the text after it, or the cause of a refusal. -/

/-- White space between the tokens of JSON. -/
def isSpace (c : Char) : Bool := c == ' ' || c == '\t' || c == '\n' || c == '\r'

/-- The text without the white space at its start. -/
def skip (cs : List Char) : List Char := cs.dropWhile isSpace

/-- The value of a hexadecimal digit. -/
def hexValue? (c : Char) : Option Nat :=
  let n := c.toNat
  if 48 ≤ n ∧ n ≤ 57 then some (n - 48)
  else if 97 ≤ n ∧ n ≤ 102 then some (n - 87)
  else if 65 ≤ n ∧ n ≤ 70 then some (n - 55)
  else none

/-- The code unit of four hexadecimal digits; at least one character must follow them. -/
def codeUnit? : List Char → Option (Nat × List Char)
  | a :: b :: c :: d :: e :: rest => do
    let n := ((← hexValue? a) * 16 + (← hexValue? b)) * 256 + (← hexValue? c) * 16 + (← hexValue? d)
    return (n, e :: rest)
  | _ => none

/-- Whether a code unit is the first of a pair. -/
def isHigh (n : Nat) : Bool := 0xD800 ≤ n && n < 0xDC00

/-- Whether a code unit is the second of a pair. -/
def isLow (n : Nat) : Bool := 0xDC00 ≤ n && n < 0xE000

/-- The character of a code unit that stands alone. -/
def unitChar (n : Nat) : Char := if Text.isHalf n then Text.ofHalf n else Char.ofNat n

/-- The character of a pair of code units. -/
def pairChar (high low : Nat) : Char :=
  Char.ofNat (0x10000 + (high - 0xD800) * 0x400 + (low - 0xDC00))

/-- The character of an escape after `\u`: one code unit, or two that make a pair. -/
def codePoint (cs : List Char) : Except ReadError (Char × List Char) :=
  match codeUnit? cs with
  | none => .error .badCodePoint
  | some (n, rest) =>
    if isHigh n then
      match rest with
      | '\\' :: 'u' :: more =>
        if more.length < 5 then .ok (unitChar n, rest)
        else match codeUnit? more with
          | none => .error .badCodePoint
          | some (m, after) =>
            if isLow m then .ok (pairChar n m, after)
            else .ok (unitChar n, rest)
      | _ => .ok (unitChar n, rest)
    else .ok (unitChar n, rest)

/-- The character of an escape after the backslash. -/
def escape : List Char → Except ReadError (Char × List Char)
  | [] => .error .unterminatedString
  | 'u' :: rest => codePoint rest
  | '"' :: rest => .ok ('"', rest)
  | '\\' :: rest => .ok ('\\', rest)
  | '/' :: rest => .ok ('/', rest)
  | 'b' :: rest => .ok ('\x08', rest)
  | 'f' :: rest => .ok ('\x0c', rest)
  | 'n' :: rest => .ok ('\n', rest)
  | 'r' :: rest => .ok ('\r', rest)
  | 't' :: rest => .ok ('\t', rest)
  | _ => .error .badEscape

/-- The characters up to the closing quote; `fuel` bounds their number. -/
def characters : Nat → List Char → Except ReadError (List Char × List Char)
  | 0, _ => .error .unterminatedString
  | _, [] => .error .unterminatedString
  | fuel + 1, c :: rest =>
    if c = '"' then .ok ([], rest)
    else if c = '\\' then do
      let (d, rest) ← escape rest
      let (ds, rest) ← characters fuel rest
      return (d :: ds, rest)
    else if c.toNat < 0x20 then .error .controlCharacter
    else do
      let (ds, rest) ← characters fuel rest
      return (c :: ds, rest)

/-- The rest of a string after its opening quote. -/
def text (cs : List Char) : Except ReadError (String × List Char) :=
  (characters (cs.length + 1) cs).map fun r => (String.ofList r.1, r.2)

/-- Whether a character is an ASCII digit. -/
def isAsciiDigit (c : Char) : Bool := 48 ≤ c.toNat && c.toNat ≤ 57

/-- The longest run of ASCII digits, and what follows it. -/
def digits (cs : List Char) : List Char × List Char :=
  (cs.takeWhile isAsciiDigit, cs.dropWhile isAsciiDigit)

/-- The value of a run of ASCII digits. -/
def digitsNat (ds : List Char) : Nat := ds.foldl (fun n c => 10 * n + (c.toNat - 48)) 0

/-- The whole part of a number: a zero, or digits that do not start with one. -/
def wholePart? (cs : List Char) : Option (List Char × List Char) :=
  match cs with
  | '0' :: rest => some (['0'], rest)
  | _ => match digits cs with
    | ([], _) => none
    | r => some r

/-- The fraction of a number: a point and at least one digit. -/
def fractionPart (cs : List Char) : Option (List Char) × List Char :=
  match cs with
  | '.' :: rest => match digits rest with
    | ([], _) => (none, cs)
    | (ds, after) => (some ds, after)
  | _ => (none, cs)

/-- The exponent of a number: a letter `e`, an optional sign and at least one digit. -/
def exponentPart (cs : List Char) : Option Int × List Char :=
  match cs with
  | c :: rest =>
    if c = 'e' ∨ c = 'E' then
      let (negative, body) := takeSign rest
      match digits body with
      | ([], _) => (none, cs)
      | (ds, after) => (some (if negative then -(digitsNat ds : Int) else digitsNat ds), after)
    else (none, cs)
  | [] => (none, cs)

/-- A number: an integer unless it has a fraction or an exponent. -/
def number (cs : List Char) : Except ReadError (Json × List Char) :=
  let (negative, body) := match cs with
    | '-' :: rest => (true, rest)
    | _ => (false, cs)
  match wholePart? body with
  | none => .error .expectedValue
  | some (whole, rest) =>
    let (fraction, rest) := fractionPart rest
    let (exponent, rest) := exponentPart rest
    if fraction.isNone && exponent.isNone then
      if mostDigits < whole.length then .error (.integerTooLong whole.length)
      else
        let n : Int := digitsNat whole
        .ok (int (if negative then -n else n), rest)
    else
      let places := fraction.getD []
      let value := ofDecimal negative (digitsNat (whole ++ places))
        (exponent.getD 0 - places.length)
      .ok (float value, rest)

/-- The items of an array after its opening bracket and white space. -/
def items (value : List Char → Except ReadError (Json × List Char)) :
    Nat → List Char → Except ReadError (List Json × List Char)
  | 0, _ => .error .expectedValue
  | fuel + 1, cs => do
    let (v, rest) ← value cs
    match skip rest with
    | ']' :: after => return ([v], after)
    | ',' :: after =>
      let (vs, rest) ← items value fuel (skip after)
      return (v :: vs, rest)
    | _ => .error .expectedComma

/-- The members of an object after its opening brace and white space, added to those
read before. -/
def members (value : List Char → Except ReadError (Json × List Char)) :
    Nat → List (String × Json) → List Char → Except ReadError (List (String × Json) × List Char)
  | 0, _, _ => .error .expectedName
  | fuel + 1, done, cs =>
    match cs with
    | '"' :: rest => do
      let (name, rest) ← text rest
      match skip rest with
      | ':' :: rest =>
        let (v, rest) ← value (skip rest)
        let done := put name v done
        match skip rest with
        | '\x7d' :: after => return (done, after)
        | ',' :: after => members value fuel done (skip after)
        | _ => .error .expectedComma
      | _ => .error .expectedColon
    | _ => .error .expectedName

/-- The text after a word that it starts with. -/
def after? (word : String) (cs : List Char) : Option (List Char) :=
  if word.toList.isPrefixOf cs then some (cs.drop word.length) else none

/-- The words that stand for values. -/
def words : List (String × Json) :=
  [("null", null), ("true", bool true), ("false", bool false), ("NaN", float nan),
    ("Infinity", float infinity), ("-Infinity", float (-infinity))]

/-- A value at the start of a text, nested at most `depth` levels. -/
def value : Nat → List Char → Except ReadError (Json × List Char)
  | 0, _ => .error .tooDeep
  | depth + 1, cs =>
    match cs with
    | '"' :: rest => (text rest).map fun r => (str r.1, r.2)
    | '[' :: rest =>
      match skip rest with
      | ']' :: after => .ok (arr [], after)
      | start => (items (value depth) (start.length + 1) start).map fun r => (arr r.1, r.2)
    | '\x7b' :: rest =>
      match skip rest with
      | '\x7d' :: after => .ok (obj [], after)
      | start => (members (value depth) (start.length + 1) [] start).map fun r => (obj r.1, r.2)
    | _ =>
      match words.findSome? fun w => (after? w.1 cs).map (w.2, ·) with
      | some r => .ok r
      | none => number cs

/-- The deepest nesting that is read. -/
def deepest : Nat := 900

/-- The value that all of some characters stand for. -/
def readCharacters (cs : List Char) : Except ReadError Json := do
  let (v, rest) ← value deepest (skip cs)
  if (skip rest).isEmpty then return v else throw .extraData

/-- The value that a whole text stands for. -/
def read (s : String) : Except ReadError Json :=
  if s.toList.head? = some '\uFEFF' then .error .byteOrderMark else readCharacters s.toList

end Json
end QuantityCalculus
