/-
# How doubles are written

A double is written with decimal digits either positionally or with an exponent. The
decisions of a format are one record, `Style`; the two formats of this library are

| style | digits | positional for | `.0` kept |
| --- | --- | --- | --- |
| `natural` | fewest that read back | exponents from -4 to 15 | yes |
| `significant n` | `n` significant, trailing zeros dropped | exponents from -4 to `n - 1` | no |

An exponent has a sign and at least two digits. Infinities and NaN are `inf`, `-inf` and
`nan`.
-/

import QuantityCalculus.Number.Decimal

namespace QuantityCalculus
namespace Number

/-- The decisions of a format of doubles. -/
structure Style where
  /-- the least decimal exponent that is written positionally -/
  positionalFrom : Int
  /-- the least decimal exponent above it that is written with an exponent again -/
  exponentFrom : Int
  /-- whether a positional integer ends in `.0` -/
  pointZero : Bool

/-- The decimal digits of a natural number. -/
def decimal (n : Nat) : List Char := Nat.toDigits 10 n

/-- A run of zeros. -/
def zeros (n : Nat) : List Char := List.replicate n '0'

/-- The digits without the zeros at their end, at least one digit staying. -/
def dropZeros (ds : List Char) : List Char :=
  match (ds.reverse.dropWhile (· == '0')).reverse with
  | [] => ['0']
  | kept => kept

/-- An exponent: a sign and at least two digits. -/
def exponentText (e : Int) : List Char :=
  let ds := decimal e.natAbs
  (if e < 0 then '-' else '+') :: (zeros (2 - ds.length) ++ ds)

/-- Digits laid out with the point after the digit of decimal exponent zero. -/
def Style.positional (style : Style) (ds : List Char) (e : Int) : List Char :=
  if e < 0 then '0' :: '.' :: (zeros (-e - 1).toNat ++ ds)
  else
    let whole := e.toNat + 1
    if ds.length ≤ whole then
      ds ++ zeros (whole - ds.length) ++ (if style.pointZero then ['.', '0'] else [])
    else ds.take whole ++ '.' :: ds.drop whole

/-- Digits laid out with the point after the first digit and an exponent. -/
def scientific (ds : List Char) (e : Int) : List Char :=
  match ds with
  | [] => []
  | [d] => d :: 'e' :: exponentText e
  | d :: rest => d :: '.' :: (rest ++ 'e' :: exponentText e)

/-- A decimal value in a style; zeros at the end of the digits do not count. -/
def Style.write (style : Style) (d : Digits) : List Char :=
  let all := decimal d.digits
  let e := d.exponent + all.length - 1
  let ds := dropZeros all
  if style.positionalFrom ≤ e && e < style.exponentFrom then style.positional ds e
  else scientific ds e

/-- A sign in front of a text. -/
def signed (negative : Bool) (cs : List Char) : String :=
  String.ofList (if negative then '-' :: cs else cs)

/-- Positional for decimal exponents from -4 to 15, an integer ending in `.0`. -/
def naturalStyle : Style := ⟨-4, 16, true⟩

/-- A double with the fewest digits that read back: `0.1`, `-0.0`, `1e+16`, `1.5e-07`. -/
def natural (x : Float) : String :=
  match parts x with
  | .nan => "nan"
  | .infinite negative => signed negative "inf".toList
  | .finite negative b =>
    signed negative (if b.mantissa = 0 then "0.0".toList else naturalStyle.write b.shortest)

/-- A double with `count` significant digits and no zeros at the end; both zeros are `0`. -/
def significant (count : Nat) (x : Float) : String :=
  let count := max count 1
  match parts x with
  | .nan => "nan"
  | .infinite negative => signed negative "inf".toList
  | .finite negative b =>
    if b.mantissa = 0 then "0"
    else signed negative (Style.write ⟨-4, count, false⟩ (b.significant count))

end Number
end QuantityCalculus
