/-
# Elementary functions of a real number

Each function is defined where its value exists: a NaN that does not come from a NaN means
that the argument is outside the domain, and an infinity that does not come from an
infinity is either a pole (outside the domain too) or a result that is too large.
-/

import QuantityCalculus.Number.Rounding

namespace QuantityCalculus
namespace Number

/-- The elementary functions of one argument. -/
inductive Elementary where
  | exp | ln | log10 | log2
  | sin | cos | tan
  | asin | acos | atan
  | sinh | cosh | tanh
deriving Repr, DecidableEq

/-- Why a function has no value at an argument. -/
inductive Trouble where
  | outsideDomain
  | tooLarge
deriving Repr, DecidableEq

/-- The function on doubles. -/
def Elementary.raw : Elementary → Float → Float
  | exp => Float.exp
  | ln => Float.log
  | log10 => Float.log10
  | log2 => Float.log2
  | sin => Float.sin
  | cos => Float.cos
  | tan => Float.tan
  | asin => Float.asin
  | acos => Float.acos
  | atan => Float.atan
  | sinh => Float.sinh
  | cosh => Float.cosh
  | tanh => Float.tanh

/-- Whether the function grows beyond the largest double at finite arguments that are no
poles. -/
def Elementary.grows : Elementary → Bool
  | exp | sinh | cosh => true
  | _ => false

/-- The value of an elementary function at a real number. -/
def Elementary.real (f : Elementary) (x : Float) : Except Trouble Float :=
  let y := f.raw x
  if y.isNaN && !x.isNaN then .error .outsideDomain
  else if y.isInf && x.isFinite then .error (if f.grows then .tooLarge else .outsideDomain)
  else .ok y

/-- The circle constant. -/
def pi : Float := 3.141592653589793

/-- The base of natural logarithms. -/
def euler : Float := 2.718281828459045

/-- The natural logarithm of two. -/
def ln2 : Float := 0.6931471805599453

/-- The natural logarithm of ten. -/
def ln10 : Float := 2.302585092994046

/-- The logarithm of `1 + x`, accurate for small `x`. The last factor makes good what `1 + x`
lost by rounding. -/
def log1p (x : Float) : Float :=
  let w := 1 + x
  if w == 1 || w == infinity then x else Float.log w * (x / (w - 1))

/-- The length of the hypotenuse for legs `ax ≥ ay ≥ 0` whose squares are in range. The root of
the sum of squares is improved by one step of Newton's method, with the residue written so that
nearly equal terms are subtracted first. -/
def hypotInRange (ax ay : Float) : Float :=
  let h := Float.sqrt (ax * ax + ay * ay)
  let residue :=
    if h ≤ 2.0 * ay then
      let d := h - ay
      ax * (2.0 * d - ax) + (d - 2.0 * (ax - ay)) * d
    else
      let d := h - ax
      2.0 * d * (ax - 2.0 * ay) + ((4.0 * d - ay) * ay + d * d)
  h - residue / (2.0 * h)

/-- The length of the hypotenuse. Legs whose squares would leave the range are scaled by a power
of two, and a leg too short to be felt is added to the other one. -/
def hypot (x y : Float) : Float :=
  if x.isInf || y.isInf then infinity
  else if x.isNaN || y.isNaN then nan
  else
    let ax := if x.abs < y.abs then y.abs else x.abs
    let ay := if x.abs < y.abs then x.abs else y.abs
    if ay.scaleB 54 ≤ ax then ax + ay
    else if (1.0 : Float).scaleB 511 < ax then
      (hypotInRange (ax.scaleB (-600)) (ay.scaleB (-600))).scaleB 600
    else if ay < (1.0 : Float).scaleB (-459) then
      (hypotInRange (ax.scaleB 600) (ay.scaleB 600)).scaleB (-600)
    else hypotInRange ax ay

/-- The remainder of `x` by `y` toward zero, for finite `x` and positive `y`. -/
def modulo (x y : Float) : Float :=
  match parts x, parts y with
  | .finite negative a, .finite _ b =>
    ofRatio negative (a.num * b.den % (b.num * a.den)) (a.den * b.den)
  | _, _ => nan

/-- Whether a double is an integer. -/
def isInteger (x : Float) : Bool :=
  match ratio? x with
  | some (n, d) => n % d == 0
  | none => false

/-- Whether a double is an odd integer. -/
def isOdd (x : Float) : Bool :=
  match ratio? x with
  | some (n, d) => n % d == 0 && (n / d) % 2 == 1
  | none => false

end Number
end QuantityCalculus
