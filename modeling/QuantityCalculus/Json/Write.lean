/-
# Writing JSON

Text is written with ASCII characters only, a character beyond the basic plane as a pair
of code units, unless it stands for half of one. Doubles are in their natural notation,
with the words `NaN`, `Infinity` and `-Infinity`. On one line the items are separated by a
comma and a space; with an indentation each item has a line of its own. Members are
written in order, or sorted by name.
-/

import QuantityCalculus.Json.Basic
import QuantityCalculus.Number.Notation
import QuantityCalculus.Text.Quoted

namespace QuantityCalculus
namespace Json

open Number Text

/-- How a value is laid out. -/
structure Layout where
  /-- the text in front for each level, when each item has a line of its own -/
  indent : Option String := none
  /-- whether members are sorted by name -/
  sorted : Bool := false

/-- A character of a string, escaped unless it is printable ASCII. -/
def escaped (c : Char) : List Char :=
  let unit (n : Nat) : List Char := '\\' :: 'u' :: hex 4 n
  if c = '"' ∨ c = '\\' then ['\\', c]
  else if c = '\n' then ['\\', 'n']
  else if c = '\r' then ['\\', 'r']
  else if c = '\t' then ['\\', 't']
  else if c = '\x0c' then ['\\', 'f']
  else if c = '\x08' then ['\\', 'b']
  else if 0x20 ≤ c.toNat ∧ c.toNat ≤ 0x7E then [c]
  else if c.toNat < 0x10000 then unit c.toNat
  else match half? c with
    | some n => unit n
    | none =>
      let n := c.toNat - 0x10000
      unit (0xD800 + n / 0x400) ++ unit (0xDC00 + n % 0x400)

/-- A string between double quotes. -/
def quotedText (s : String) : String :=
  String.ofList ('"' :: (s.toList.flatMap escaped ++ ['"']))

/-- A double, with words for the values that have no digits. -/
def floatText (x : Float) : String :=
  match parts x with
  | .nan => "NaN"
  | .infinite negative => if negative then "-Infinity" else "Infinity"
  | .finite .. => natural x

/-- The break before an item at a level, or nothing on one line. -/
def Layout.lineBreak (layout : Layout) (level : Nat) : String :=
  match layout.indent with
  | none => ""
  | some step => String.join ("\n" :: List.replicate level step)

/-- Items between brackets, the closing one on its own line when they are indented. -/
def Layout.enclose (layout : Layout) (level : Nat) (opening closing : String)
    (texts : List String) : String :=
  if texts.isEmpty then opening ++ closing
  else
    let separator := match layout.indent with
      | none => ", "
      | some _ => "," ++ layout.lineBreak (level + 1)
    opening ++ layout.lineBreak (level + 1) ++ String.intercalate separator texts ++
      layout.lineBreak level ++ closing

/-- Named texts in the order of the layout. -/
def Layout.order (layout : Layout) (named : List (String × String)) : List String :=
  let arranged := if layout.sorted then named.mergeSort fun a b => a.1 ≤ b.1 else named
  arranged.map fun m => quotedText m.1 ++ ": " ++ m.2

mutual

/-- A value at a level of nesting. -/
def writeAt (layout : Layout) (level : Nat) : Json → String
  | null => "null"
  | bool b => if b then "true" else "false"
  | int n => toString n
  | float x => floatText x
  | str s => quotedText s
  | arr xs => layout.enclose level "[" "]" (writeItems layout (level + 1) xs)
  | obj ms => layout.enclose level "\x7b" "\x7d" (layout.order (writeMembers layout (level + 1) ms))

/-- The items of an array. -/
def writeItems (layout : Layout) (level : Nat) : List Json → List String
  | [] => []
  | x :: xs => writeAt layout level x :: writeItems layout level xs

/-- The members of an object. -/
def writeMembers (layout : Layout) (level : Nat) : List (String × Json) → List (String × String)
  | [] => []
  | (n, v) :: ms => (n, writeAt layout level v) :: writeMembers layout level ms

end

/-- The text of a value. -/
def write (v : Json) (layout : Layout := {}) : String := writeAt layout 0 v

end Json
end QuantityCalculus
