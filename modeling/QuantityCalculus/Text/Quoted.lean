/-
# Quoted text

How a text is shown inside a message: between single quotes, or between double quotes
when it holds a single quote and no double one. The quote in use and the backslash are
escaped, and a character that is not printable is shown by its code point, a lone
surrogate by its code unit.
-/

import QuantityCalculus.Text.Printable
import QuantityCalculus.Text.Surrogate

namespace QuantityCalculus
namespace Text

/-- A lower-case hexadecimal number with at least `width` digits. -/
def hex (width n : Nat) : List Char :=
  let ds := Nat.toDigits 16 n
  List.replicate (width - ds.length) '0' ++ ds

/-- How one character is shown between the given quotes. -/
def quotedChar (quote c : Char) : List Char :=
  if c = quote ∨ c = '\\' then ['\\', c]
  else if c = '\n' then ['\\', 'n']
  else if c = '\r' then ['\\', 'r']
  else if c = '\t' then ['\\', 't']
  else if isPrintable c then [c]
  else if c.toNat < 0x100 then '\\' :: 'x' :: hex 2 c.toNat
  else if c.toNat < 0x10000 then '\\' :: 'u' :: hex 4 c.toNat
  else match half? c with
    | some n => '\\' :: 'u' :: hex 4 n
    | none => '\\' :: 'U' :: hex 8 c.toNat

/-- The quote that a text is shown in. -/
def quoteOf (cs : List Char) : Char :=
  if cs.contains '\'' && !cs.contains '"' then '"' else '\''

/-- A text in quotes. -/
def quoted (s : String) : String :=
  let cs := s.toList
  let quote := quoteOf cs
  String.ofList (quote :: (cs.flatMap (quotedChar quote) ++ [quote]))

end Text
end QuantityCalculus
