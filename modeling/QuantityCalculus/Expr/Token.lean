/-
# Tokens

The text of an expression is a row of tokens with gaps of spaces and tabs between them.
A word is a letter with the letters, digits and underscores after it; a number is a run
of digits with an optional fraction and an optional exponent; anything else is an
operator of one or two characters, or unknown. The marks that separate arguments and
start a fraction can be chosen; the separator wins over every other reading of its
character.

**Main statements.**

* `split_append`: a token and what follows it are the text.
* `takeNumber_append`: so are a number and what follows it.
-/

import QuantityCalculus.Text.Blank
import QuantityCalculus.Text.Numeral

namespace QuantityCalculus

open Text

/-- What a token is. -/
inductive TokenKind where
  | endOfLine
  | word
  | scalar
  | plus
  | minus
  | multiply
  | divide
  | power
  | modulo
  | intDivide
  | factorial
  | notEqual
  | equal
  | assign
  | less
  | lessEqual
  | shiftLeft
  | greater
  | greaterEqual
  | shiftRight
  | leftParen
  | rightParen
  | quote
  | separator
  | bitwiseAnd
  | logicalAnd
  | bitwiseOr
  | logicalOr
  | question
  | colon
  | unknown
deriving Repr, DecidableEq

/-- A token, its first column counted from zero, and whether a gap stands before it. -/
structure Token where
  kind : TokenKind
  content : String
  column : Nat
  afterGap : Bool
deriving Repr, DecidableEq

/-- The character between arguments and the one before a fraction; a mark that is missing
matches no character. -/
structure Marks where
  separator : Option Char
  decimal : Option Char
deriving Repr, DecidableEq

/-- A comma between arguments and a point before a fraction. -/
def Marks.standard : Marks := ⟨some ',', some '.'⟩

namespace Token

/-- The characters between tokens. -/
def isGap (c : Char) : Bool := c == ' ' || c == '\t'

/-- The characters of a word after its first letter. -/
def isWordChar (c : Char) : Bool := isLetter c || isDigit c || c == '_'

/-- The kind of an operator of one character. -/
def single? (c : Char) : Option TokenKind :=
  match c with
  | '+' => some .plus
  | '-' => some .minus
  | '/' => some .divide
  | '*' => some .multiply
  | '^' => some .power
  | '%' => some .modulo
  | '\\' => some .intDivide
  | '<' => some .less
  | '>' => some .greater
  | '=' => some .assign
  | '!' => some .factorial
  | '(' => some .leftParen
  | ')' => some .rightParen
  | '\'' => some .quote
  | '"' => some .quote
  | '&' => some .bitwiseAnd
  | '|' => some .bitwiseOr
  | '?' => some .question
  | ':' => some .colon
  | _ => none

/-- The kind of an operator of two characters. -/
def double? (c d : Char) : Option TokenKind :=
  match c, d with
  | '*', '*' => some .power
  | '<', '=' => some .lessEqual
  | '<', '<' => some .shiftLeft
  | '>', '=' => some .greaterEqual
  | '>', '>' => some .shiftRight
  | '=', '=' => some .equal
  | '!', '=' => some .notEqual
  | '&', '&' => some .logicalAnd
  | '|', '|' => some .logicalOr
  | _, _ => none

/-- The longest run of characters of a class, and what follows it. -/
def takeRun (p : Char → Bool) (cs : List Char) : List Char × List Char :=
  (cs.takeWhile p, cs.dropWhile p)

@[simp] theorem takeRun_append (p : Char → Bool) (cs : List Char) :
    (takeRun p cs).1 ++ (takeRun p cs).2 = cs :=
  List.takeWhile_append_dropWhile

/-- The decimal mark and the digits after it, if the text starts with the mark. -/
def takeFraction (m : Marks) : List Char → List Char × List Char
  | [] => ([], [])
  | c :: rest =>
    if m.decimal = some c then (c :: (takeRun isDigit rest).1, (takeRun isDigit rest).2)
    else ([], c :: rest)

/-- The letter `e`, an optional sign and at least one digit, if the text starts so. -/
def takeExponent : List Char → List Char × List Char
  | [] => ([], [])
  | c :: rest =>
    if c = 'e' ∨ c = 'E' then
      match rest with
      | s :: d :: after =>
        if (s = '+' ∨ s = '-') ∧ isDigit d then
          (c :: s :: d :: (takeRun isDigit after).1, (takeRun isDigit after).2)
        else if isDigit s then
          (c :: (takeRun isDigit rest).1, (takeRun isDigit rest).2)
        else ([], c :: rest)
      | [s] => if isDigit s then ([c, s], []) else ([], c :: rest)
      | [] => ([], [c])
    else ([], c :: rest)

/-- The longest number at the start of a text. -/
def takeNumber (m : Marks) (cs : List Char) : List Char × List Char :=
  let whole := takeRun isDigit cs
  let fraction := takeFraction m whole.2
  let exponent := takeExponent fraction.2
  (whole.1 ++ (fraction.1 ++ exponent.1), exponent.2)

theorem takeFraction_append (m : Marks) (cs : List Char) :
    (takeFraction m cs).1 ++ (takeFraction m cs).2 = cs := by
  cases cs with
  | nil => rfl
  | cons c rest =>
    simp only [takeFraction]
    split <;> simp

theorem takeExponent_append (cs : List Char) :
    (takeExponent cs).1 ++ (takeExponent cs).2 = cs := by
  cases cs with
  | nil => rfl
  | cons c rest =>
    simp only [takeExponent]
    split
    · rcases rest with _ | ⟨s, _ | ⟨d, after⟩⟩
      · rfl
      · simp only
        split <;> rfl
      · simp only
        split
        · simp
        · split <;> simp
    · rfl

/-- **A number and what follows it** are the text. -/
theorem takeNumber_append (m : Marks) (cs : List Char) :
    (takeNumber m cs).1 ++ (takeNumber m cs).2 = cs := by
  simp only [takeNumber, List.append_assoc, takeExponent_append, takeFraction_append,
    takeRun_append]

/-- The first token of a text that starts with the character `c`, no gap: its kind, its
characters and the text after it. -/
def split (m : Marks) (c : Char) (rest : List Char) : TokenKind × List Char × List Char :=
  if m.separator = some c then (.separator, [c], rest)
  else if isLetter c then (.word, c :: (takeRun isWordChar rest).1, (takeRun isWordChar rest).2)
  else if isDigit c then (.scalar, takeNumber m (c :: rest))
  else match single? c with
    | none => (.unknown, [c], rest)
    | some kind =>
      match rest with
      | [] => (kind, [c], [])
      | d :: after =>
        match double? c d with
        | some long => (long, [c, d], after)
        | none => (kind, [c], d :: after)

/-- **A token and what follows it** are the text. -/
theorem split_append (m : Marks) (c : Char) (rest : List Char) :
    (split m c rest).2.1 ++ (split m c rest).2.2 = c :: rest := by
  unfold split
  split
  · rfl
  · split
    · simp
    · split
      · exact takeNumber_append m (c :: rest)
      · split
        · rfl
        · split
          · rfl
          · split <;> rfl

/-- The tokens of a text that starts at a column, the last of them its end. `fuel` bounds
their number and need not exceed the length of the text. -/
def scanFrom (m : Marks) : Nat → Nat → List Char → List Token
  | fuel, column, cs =>
    let gap := (takeRun isGap cs).1
    let start := column + gap.length
    let afterGap := !gap.isEmpty
    match fuel, (takeRun isGap cs).2 with
    | fuel + 1, c :: rest =>
      let s := split m c rest
      ⟨s.1, String.ofList s.2.1, start, afterGap⟩ ::
        scanFrom m fuel (start + s.2.1.length) s.2.2
    | _, _ => [⟨.endOfLine, "", start, afterGap⟩]

/-- The tokens of a text; the last of them stands for the end. -/
def scan (m : Marks) (text : String) : List Token :=
  let cs := text.toList
  scanFrom m cs.length 0 cs

end Token

/-- The text between two columns without the blanks at its end. -/
def slice (cs : List Char) (start stop : Nat) : String :=
  String.ofList (trimEnd ((cs.take stop).drop start))

end QuantityCalculus
