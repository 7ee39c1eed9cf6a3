/-
# Scalars

A calculator works over one kind of scalar, the real or the complex numbers. What the
rest of the library needs of a kind is the class `Scalar`: arithmetic that says when it
has no result, conversion from a real number, and the scalar's texts.
-/

import QuantityCalculus.Complex.Basic
import QuantityCalculus.Error
import QuantityCalculus.Number.Literal

namespace QuantityCalculus

open Number

/-- The kinds of scalars. -/
inductive ScalarKind where
  | real
  | complex
deriving Repr, DecidableEq

/-- The kinds in the order they are listed in. -/
def ScalarKind.all : List ScalarKind := [.real, .complex]

/-- The name of a kind. -/
def ScalarKind.name : ScalarKind → String
  | real => "real"
  | complex => "complex"

/-- The kind of a name, written in any case. -/
def ScalarKind.ofName (name : String) : Except Misuse ScalarKind :=
  match ScalarKind.all.find? fun k => k.name = name.toLower with
  | some k => .ok k
  | none => .error (.scalarKind name)

/-- What a kind of scalar provides. -/
class Scalar (α : Type) where
  kind : ScalarKind
  /-- a real number as a scalar -/
  ofReal : Float → α
  /-- a complex number as a scalar, which a real scalar takes only without imaginary part -/
  ofComplex : Complex → Except Invalid α
  /-- the real part -/
  re : α → Float
  /-- the imaginary part -/
  im : α → Float
  conj : α → α
  /-- equality of values: zeros of either sign are equal, a NaN equals nothing -/
  eq : α → α → Bool
  add : α → α → α
  sub : α → α → α
  mul : α → α → α
  neg : α → α
  div : α → α → Except Invalid α
  power : α → α → Except Invalid α
  /-- the exact exponent that units may be raised to -/
  exponent : α → Except Invalid Rat
  gamma : α → Except Invalid α
  abs : α → Except Trouble α
  sqrt : α → Except Invalid α
  elementary : Elementary → α → Except Trouble α
  /-- the text with a count of significant digits -/
  text : Nat → α → String
  toJson : α → Json
  ofJson : Json → Except Fault α
  /-- the value of a name that no scope binds -/
  constant? : String → Option α

namespace Scalar

variable {α : Type} [Scalar α]

/-- Zero. -/
def zero : α := ofReal 0.0

/-- One. -/
def one : α := ofReal 1.0

/-- One for true and zero for false. -/
def ofBool (b : Bool) : α := if b then one else zero

/-- Everything but zero counts as true. -/
def isTrue (x : α) : Bool := !eq x (zero : α)

/-- The integer part of the real part. -/
def toInt (x : α) : Except Invalid Int :=
  match truncate? (re x) with
  | some n => .ok n
  | none => .error .notFinite

/-- Every occurrence of a text replaced by another, from the left; an empty text occurs
before every character and at the end. `fuel` bounds the steps. -/
def replaceAll (old new : List Char) : Nat → List Char → List Char
  | 0, cs => cs
  | fuel + 1, cs =>
    if old.isEmpty then
      match cs with
      | [] => new
      | c :: rest => new ++ c :: replaceAll old new fuel rest
    else if old.isPrefixOf cs then new ++ replaceAll old new fuel (cs.drop old.length)
    else match cs with
      | [] => []
      | c :: rest => c :: replaceAll old new fuel rest

/-- The value of a number that is written with the given decimal mark. -/
def ofLiteral (text decimal : String) : Except Invalid α :=
  let cs := text.toList
  let plain :=
    if decimal = "." then cs else replaceAll decimal.toList ['.'] (cs.length + 1) cs
  match read? plain with
  | some x => .ok (ofReal x)
  | none => .error (.scalarText text)

end Scalar

/-- A real number written for display. -/
def realText (precision : Nat) (x : Float) : String := significant precision x

/-- The double of a JSON number; an integer beyond the largest double has none. -/
def doubleOfJson? : Json → Option (Except Fault Float)
  | .int n => some (match ofInt? n with
    | some x => .ok x
    | none => .error .overflow)
  | .float x => some (.ok x)
  | _ => none

end QuantityCalculus
