/-
# Values in messages

A message shows a value that it refuses: texts in quotes, the words `None`, `True` and
`False`, lists in brackets and named values in braces.
-/

import QuantityCalculus.Json.Basic
import QuantityCalculus.Number.Notation
import QuantityCalculus.Text.Quoted

namespace QuantityCalculus
namespace Json

open Number Text

mutual

/-- A value as a message shows it. -/
def shown : Json → String
  | null => "None"
  | bool b => if b then "True" else "False"
  | int n => toString n
  | float x => natural x
  | str s => quoted s
  | arr xs => "[" ++ String.intercalate ", " (shownItems xs) ++ "]"
  | obj ms => "\x7b" ++ String.intercalate ", " (shownMembers ms) ++ "\x7d"

/-- The items of a list. -/
def shownItems : List Json → List String
  | [] => []
  | x :: xs => shown x :: shownItems xs

/-- The named values. -/
def shownMembers : List (String × Json) → List String
  | [] => []
  | (n, v) :: ms => (quoted n ++ ": " ++ shown v) :: shownMembers ms

end

/-- A value in running text: a text as it is, any other value as it is shown. -/
def plain : Json → String
  | str s => s
  | v => shown v

end Json
end QuantityCalculus
