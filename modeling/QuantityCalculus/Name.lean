/-
# Names

What a variable, constant, unit or function may be called: a letter or an underscore (or a
numeral that is no decimal digit) and then letters, numerals and underscores. One line
break at the very end is overlooked. The word that asks for a conversion is reserved.
-/

import QuantityCalculus.Error
import QuantityCalculus.Text.Numeral

namespace QuantityCalculus
namespace Name

open Text

/-- The word that asks for a conversion; it is no name of anything. -/
def reserved : String := "in"

/-- A character that a name may start with. -/
def isFirstChar (c : Char) : Bool := isNameChar c && !isDigit c

/-- A text without one line break at its end. -/
def dropLastBreak (cs : List Char) : List Char :=
  if cs.getLast? = some '\n' then cs.dropLast else cs

/-- Whether a text has the form of a name. -/
def isWellFormed (text : String) : Bool :=
  match text.toList with
  | [] => false
  | c :: rest => isFirstChar c && (dropLastBreak rest).all isNameChar

/-- A name has to be well formed and not reserved. -/
def check (text : String) (role : NameRole) : Except Invalid Unit :=
  if !isWellFormed text then .error (.name text role)
  else if text = reserved then .error (.reservedName text role)
  else .ok ()

end Name
end QuantityCalculus
