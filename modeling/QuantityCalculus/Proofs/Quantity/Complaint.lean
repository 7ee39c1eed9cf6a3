/-
# The complaint about a number

One message says that a number of an expression has no value. All other messages begin otherwise,
but for those that hand on what somebody else has said. So only a number that has no value brings
it about: arithmetic, built-in functions and look-ups fail with other messages.

**Main statements.** `Invalid.spares` and its companions, one for each sort of errors;
`Quantity.failsOnly_power` and its companions, one for each operation; `Builtin.failsOnly_apply`.
-/

import QuantityCalculus.Proofs.Except
import QuantityCalculus.Proofs.Machine.Runs
import QuantityCalculus.Scalar.Complex

namespace QuantityCalculus

/-! ### Messages -/

/-- The message says that a number has no value. -/
def BlamesNumber (message : String) : Prop := ∃ text, message = (Invalid.scalarText text).message

/-- How such a message begins. -/
def blame : List Char := ['C', 'o', 'u', 'l', 'd', ' ', 'n', 'o', 't', ' ', 'e']

/-- One of the characters is another one than that which stands in its place in the blame. -/
def Departs (cs : List Char) : Prop := (cs.zip blame).any (fun p => p.1 != p.2) = true

theorem any_zip_append {α β : Type} {p : α × β → Bool} {as : List α} (bs : List α) {cs : List β}
    (h : (as.zip cs).any p = true) : ((as ++ bs).zip cs).any p = true := by
  induction as generalizing cs with
  | nil => cases h
  | cons a as ih =>
    cases cs with
    | nil => cases h
    | cons c cs =>
      rw [List.zip_cons_cons, List.any_cons, Bool.or_eq_true] at h
      rw [List.cons_append, List.zip_cons_cons, List.any_cons, Bool.or_eq_true]
      exact h.imp_right ih

theorem not_blamesNumber_of_departs {s : String} (h : Departs s.toList) : ¬ BlamesNumber s := by
  rintro ⟨text, rfl⟩
  have hmessage : (Invalid.scalarText text).message =
      String.ofList (blame ++ "valuate the scalar '".toList) ++ text ++ "'." := rfl
  rw [hmessage, String.toList_append, String.toList_append, String.toList_ofList, Departs] at h
  simp [blame] at h

/-- A text that is written out, by its characters. -/
theorem departs_literal {s : String} {cs : List Char} (h : s = String.ofList cs)
    (hcs : (cs.zip blame).any (fun p => p.1 != p.2) = true) : Departs s.toList := by
  rw [h, String.toList_ofList]
  exact hcs

theorem departs_append {s : String} (h : Departs s.toList) (t : String) :
    Departs (s ++ t).toList := by
  rw [String.toList_append]
  exact any_zip_append t.toList h

/-- An error whose message does not say that a number has no value. -/
def CalcError.Spares (cause : CalcError) : Prop := ¬ BlamesNumber cause.message

/-- An invalid operation whose message does not say so. -/
def Invalid.Spares (cause : Invalid) : Prop := (CalcError.invalid cause).Spares

/-- A fault that is no such error. -/
def Fault.Spares : Fault → Prop
  | error cause => cause.Spares
  | _ => True

theorem SyntaxError.spares (e : SyntaxError) : (CalcError.text e).Spares := by
  refine not_blamesNumber_of_departs ?_
  show Departs e.message.toList
  unfold message
  cases e <;> dsimp only [atColumn]
  all_goals
    repeat with_reducible refine departs_append ?_ _
    exact departs_literal rfl rfl

theorem Missing.spares (e : Missing) : (CalcError.missing e).Spares := by
  refine not_blamesNumber_of_departs ?_
  show Departs e.message.toList
  unfold message
  cases e
  all_goals
    repeat with_reducible refine departs_append ?_ _
    exact departs_literal rfl rfl

theorem ScalarShape.spares (e : ScalarShape) : (CalcError.scalar e).Spares := by
  refine not_blamesNumber_of_departs ?_
  show Departs e.message.toList
  unfold message
  cases e
  all_goals
    repeat with_reducible refine departs_append ?_ _
    exact departs_literal rfl rfl

theorem CalcError.spares_callDepth (limit function : String) :
    (callDepth limit function).Spares := by
  refine not_blamesNumber_of_departs ?_
  show Departs ("Maximum function call depth of " ++ limit ++ " exceeded while calling '" ++
    function ++ "'.").toList
  repeat with_reducible refine departs_append ?_ _
  exact departs_literal rfl rfl

/-- A message that was stated elsewhere says whatever it says. -/
theorem Mismatch.spares {e : Mismatch} (h : ∀ m, e ≠ .stated m) : (CalcError.units e).Spares := by
  refine not_blamesNumber_of_departs ?_
  show Departs e.message.toList
  unfold message
  cases e with
  | stated m => exact absurd rfl (h m)
  | _ =>
    repeat with_reducible refine departs_append ?_ _
    exact departs_literal rfl rfl

/-- **Only a number without a value** is blamed. -/
theorem Invalid.spares {e : Invalid} (h : ∀ text, e ≠ .scalarText text) : e.Spares := by
  refine not_blamesNumber_of_departs ?_
  show Departs e.message.toList
  unfold message
  cases e with
  | scalarText text => exact absurd rfl (h text)
  | _ =>
    repeat with_reducible refine departs_append ?_ _
    exact departs_literal rfl rfl

/-- The fault of an entry has the message of its cause. -/
theorem SnapshotError.spares {e : SnapshotError} (h : ∀ m, e ≠ .entry m) :
    (CalcError.snapshot e).Spares := by
  refine not_blamesNumber_of_departs ?_
  show Departs e.message.toList
  unfold message
  cases e with
  | entry m => exact absurd rfl (h m)
  | _ =>
    repeat with_reducible refine departs_append ?_ _
    exact departs_literal rfl rfl

/-! ### Scalars -/

open QuantityCalculus.Except (FailsOnly)

/-- Kinds of scalars that blame no number: neither their arithmetic nor what JSON values are
refused for. -/
class Scalar.Sparing (α : Type) [Scalar α] : Prop where
  ofComplex : ∀ z, FailsOnly Invalid.Spares (Scalar.ofComplex z : Except Invalid α)
  div : ∀ a b : α, FailsOnly Invalid.Spares (Scalar.div a b)
  power : ∀ a b : α, FailsOnly Invalid.Spares (Scalar.power a b)
  exponent : ∀ a : α, FailsOnly Invalid.Spares (Scalar.exponent a)
  gamma : ∀ a : α, FailsOnly Invalid.Spares (Scalar.gamma a)
  sqrt : ∀ a : α, FailsOnly Invalid.Spares (Scalar.sqrt a)
  ofJson : ∀ raw, FailsOnly Fault.Spares (Scalar.ofJson raw : Except Fault α)

theorem failsOnly_realExponent (x : Float) : FailsOnly Invalid.Spares (realExponent x) := by
  unfold realExponent
  split
  · exact .ok _
  · exact .error (Invalid.spares nofun)

theorem failsOnly_doubleOfJson {raw : Json} {x : Except Fault Float}
    (h : doubleOfJson? raw = some x) : FailsOnly Fault.Spares x := by
  cases raw with
  | int n =>
    obtain rfl := Option.some.inj h
    split
    · exact .ok _
    · exact .error trivial
  | float y =>
    obtain rfl := Option.some.inj h
    exact .ok y
  | _ => cases h

instance : Scalar.Sparing Float where
  ofComplex z := by
    show FailsOnly Invalid.Spares (if z.im != 0 then .error .notReal else .ok z.re)
    split
    · exact .error (Invalid.spares nofun)
    · exact .ok _
  div a b := by
    show FailsOnly Invalid.Spares (if b == 0 then .error .divisionByZero else .ok (a / b))
    split
    · exact .error (Invalid.spares nofun)
    · exact .ok _
  power a b := by
    show FailsOnly Invalid.Spares (realPower a b)
    unfold realPower
    dsimp only
    repeat' split
    all_goals first
      | exact .ok _
      | exact .error (Invalid.spares nofun)
  exponent := failsOnly_realExponent
  gamma a := by
    show FailsOnly Invalid.Spares (realGamma a)
    unfold realGamma
    split
    · exact .ok _
    · exact .error (Invalid.spares nofun)
    · exact .error (Invalid.spares nofun)
  sqrt a := by
    show FailsOnly Invalid.Spares (if a < 0 then .error .squareRoot else .ok a.sqrt)
    split
    · exact .error (Invalid.spares nofun)
    · exact .ok _
  ofJson raw := by
    show FailsOnly Fault.Spares ((doubleOfJson? raw).getD (.error (CalcError.scalar (.real raw))))
    cases h : doubleOfJson? raw with
    | none => exact .error (ScalarShape.spares _)
    | some x => exact failsOnly_doubleOfJson h

instance : Scalar.Sparing Complex where
  ofComplex z := .ok z
  div a b := by
    show FailsOnly Invalid.Spares (match Complex.div? a b with
      | some q => .ok q
      | none => .error .divisionByZero)
    split
    · exact .ok _
    · exact .error (Invalid.spares nofun)
  power a b := by
    show FailsOnly Invalid.Spares (match Complex.power a b with
      | .ok p => .ok p
      | .error .undefined => .error .divisionByZero
      | .error .tooLarge => .error .tooLarge)
    split
    · exact .ok _
    · exact .error (Invalid.spares nofun)
    · exact .error (Invalid.spares nofun)
  exponent a := by
    show FailsOnly Invalid.Spares (if a.im != 0 then .error .complexExponent else realExponent a.re)
    split
    · exact .error (Invalid.spares nofun)
    · exact failsOnly_realExponent _
  gamma a := by
    show FailsOnly Invalid.Spares (match Complex.gamma? a with
      | some w => .ok w
      | none => .error .factorial)
    split
    · exact .ok _
    · exact .error (Invalid.spares nofun)
  sqrt a := .ok a.sqrt
  ofJson raw := by
    show FailsOnly Fault.Spares (complexOfJson raw)
    unfold complexOfJson
    dsimp only
    split
    · split
      · rename_i hx hy
        exact (failsOnly_doubleOfJson hx).bind fun _ => (failsOnly_doubleOfJson hy).bind fun _ =>
          .ok _
      · exact .error (ScalarShape.spares _)
    · split
      · rename_i hx
        exact (failsOnly_doubleOfJson hx).map
      · exact .error (ScalarShape.spares _)

variable {α : Type} [Scalar α]

theorem Scalar.failsOnly_toInt (x : α) : FailsOnly Invalid.Spares (Scalar.toInt x) := by
  unfold toInt
  split
  · exact .ok _
  · exact .error (Invalid.spares nofun)

variable [Scalar.Sparing α]

/-! ### Quantities -/

/-- An invalid operation on scalars is one on quantities. -/
theorem failsOnly_invalid {β : Type} {x : Except Invalid β} (h : FailsOnly Invalid.Spares x) :
    FailsOnly CalcError.Spares (x.mapError CalcError.invalid) :=
  h.mapError fun _ he => he

/-- A calculation error is a fault. -/
theorem failsOnly_error {β : Type} {x : Except CalcError β} (h : FailsOnly CalcError.Spares x) :
    FailsOnly Fault.Spares (x.mapError Fault.error) :=
  h.mapError fun _ he => he

namespace Quantity

open Scalar

omit [Scalar.Sparing α] in
theorem failsOnly_add (a b : Quantity α) : FailsOnly CalcError.Spares (a.add b) := by
  unfold add
  split
  · exact .ok _
  · exact .error (Mismatch.spares nofun)

omit [Scalar.Sparing α] in
theorem failsOnly_sub (a b : Quantity α) : FailsOnly CalcError.Spares (a.sub b) := by
  unfold sub
  split
  · exact .ok _
  · exact .error (Mismatch.spares nofun)

omit [Scalar.Sparing α] in
theorem failsOnly_remainder (a b : Quantity α) : FailsOnly CalcError.Spares (a.remainder b) := by
  unfold remainder
  dsimp only
  split
  · exact .error (Invalid.spares nofun)
  · split
    · exact .ok _
    · exact .error (Invalid.spares nofun)

omit [Scalar.Sparing α] in
theorem failsOnly_integerDiv (a b : Quantity α) :
    FailsOnly CalcError.Spares (a.integerDiv b) := by
  unfold integerDiv
  dsimp only
  split
  · exact .error (Invalid.spares nofun)
  · split
    · exact .ok _
    · exact .error (Invalid.spares nofun)

omit [Scalar.Sparing α] in
/-- Bits and shifts need quantities without units. -/
theorem failsOnly_onIntegers {mismatch : Mismatch} (hm : (CalcError.units mismatch).Spares)
    (f : Int → Int → Int) (a b : Quantity α) :
    FailsOnly CalcError.Spares (onIntegers mismatch f a b) := by
  unfold onIntegers
  split
  · exact (failsOnly_invalid (failsOnly_toInt _)).bind fun _ =>
      (failsOnly_invalid (failsOnly_toInt _)).bind fun _ => .ok _
  · exact .error hm

omit [Scalar.Sparing α] in
theorem failsOnly_compared (test : α → α → Bool) (a b : Quantity α) :
    FailsOnly CalcError.Spares (compared test a b) := by
  unfold compared
  split
  · exact .ok _
  · exact .error (Mismatch.spares nofun)

theorem failsOnly_factorial (a : Quantity α) : FailsOnly CalcError.Spares a.factorial := by
  unfold factorial
  split
  · exact (failsOnly_invalid (Sparing.gamma _)).bind fun _ => .ok _
  · exact .error (Mismatch.spares nofun)

theorem failsOnly_div (a b : Quantity α) : FailsOnly CalcError.Spares (a.div b) :=
  (failsOnly_invalid (Sparing.div _ _)).bind fun _ => .ok _

theorem failsOnly_power (a b : Quantity α) : FailsOnly CalcError.Spares (a.power b) := by
  have hpower := failsOnly_invalid (Sparing.power a.scalar b.scalar)
  unfold power
  dsimp only
  split
  · split
    · exact .ok _
    · split
      · exact hpower.bind fun _ => .ok _
      · exact (failsOnly_invalid (Sparing.exponent _)).bind fun _ => hpower.bind fun _ => .ok _
  · exact .error (Mismatch.spares nofun)

theorem failsOnly_ratio {mismatch : Mismatch} (hm : (CalcError.units mismatch).Spares)
    (a b : Quantity α) : FailsOnly CalcError.Spares (ratio mismatch a b) := by
  unfold ratio
  split
  · exact failsOnly_invalid (Sparing.div _ _)
  · exact .error hm

end Quantity

/-! ### Operators and built-in functions -/

namespace Expr

open Quantity

theorem failsOnly_applyUnary (op : UnaryOp) (a : Quantity α) :
    FailsOnly CalcError.Spares (applyUnary op a) := by
  cases op with
  | factorial => exact failsOnly_factorial a
  | _ => exact .ok _

theorem failsOnly_applyBinary (op : BinaryOp) (a b : Quantity α) :
    FailsOnly CalcError.Spares (applyBinary op a b) := by
  cases op with
  | bitwiseOr | bitwiseAnd | shiftLeft | shiftRight =>
    refine failsOnly_onIntegers ?_ _ a b
    exact Mismatch.spares nofun
  | equal => exact failsOnly_compared Scalar.eq a b
  | notEqual => exact failsOnly_compared (fun x y => !Scalar.eq x y) a b
  | less => exact failsOnly_compared (fun x y => decide (Scalar.re x < Scalar.re y)) a b
  | lessEqual => exact failsOnly_compared (fun x y => decide (Scalar.re x ≤ Scalar.re y)) a b
  | greater => exact failsOnly_compared (fun x y => decide (Scalar.re y < Scalar.re x)) a b
  | greaterEqual => exact failsOnly_compared (fun x y => decide (Scalar.re y ≤ Scalar.re x)) a b
  | add => exact failsOnly_add a b
  | subtract => exact failsOnly_sub a b
  | divide => exact failsOnly_div a b
  | modulo => exact failsOnly_remainder a b
  | intDivide => exact failsOnly_integerDiv a b
  | power => exact failsOnly_power a b
  | inUnit => exact .guard (Mismatch.spares nofun) (.ok _)
  | multiply | logicalOr | logicalAnd | assign => exact .ok _

theorem failsOnly_converted (a b : Quantity α) : FailsOnly CalcError.Spares (converted a b) := by
  refine (failsOnly_ratio ?_ a b).bind fun _ => .ok _
  exact Mismatch.spares nofun

theorem failsOnly_single {e a : Expr} {f : Quantity α → Except CalcError (Quantity α)}
    (h : e.single? = some (a, f)) (x : Quantity α) : FailsOnly CalcError.Spares (f x) := by
  unfold single? at h
  split at h
  · cases h
  · cases h
    exact failsOnly_applyUnary _ x
  · cases h

theorem failsOnly_pair {e a b : Expr}
    {f : Quantity α → Quantity α → Except CalcError (Quantity α)}
    (h : e.pair? = some (a, b, f)) (x y : Quantity α) : FailsOnly CalcError.Spares (f x y) := by
  unfold pair? at h
  split at h
  all_goals cases h
  · exact failsOnly_converted x y
  · exact failsOnly_converted x y
  · exact failsOnly_applyBinary _ x y

omit [Scalar.Sparing α] in
theorem failsOnly_valueOfName (scopes : List (Scope α)) (name : String) :
    FailsOnly CalcError.Spares (valueOfName scopes name) := by
  unfold valueOfName
  split
  · exact .ok _
  · split
    · exact .ok _
    · exact .error (Missing.spares _)

end Expr

theorem Name.failsOnly_check (name : String) (role : NameRole) :
    FailsOnly Invalid.Spares (check name role) := by
  unfold check
  split
  · exact .error (Invalid.spares nofun)
  · split
    · exact .error (Invalid.spares nofun)
    · exact .ok ()

theorem Function.failsOnly_check (name : String) (parameters : List Parameter) :
    FailsOnly Invalid.Spares (check name parameters) := by
  refine (Name.failsOnly_check name .function).bind fun _ => ?_
  split
  · exact .ok _
  · exact .error (Invalid.spares nofun)

theorem Expr.failsOnly_parameterNames (parameters : List Expr) :
    FailsOnly CalcError.Spares (parameterNames parameters) := by
  induction parameters with
  | nil => exact .ok _
  | cons p rest ih =>
    cases p with
    | name n => exact ih.bind fun _ => .ok _
    | _ => exact .error (Invalid.spares nofun)

theorem Expr.failsOnly_definition (name : String) (parameters : List Expr) (body : Expr) :
    FailsOnly Fault.Spares (definition name parameters body) := by
  refine (failsOnly_error (failsOnly_parameterNames parameters)).bind fun names => ?_
  have hcheck : FailsOnly Fault.Spares
      ((Function.check name names).mapError fun e => Fault.error (.invalid e)) :=
    (Function.failsOnly_check name names).mapError fun _ h => h
  exact hcheck.bind fun _ => .ok _

namespace Builtin

open Number

variable (name : String)

theorem failsOnly_named {β : Type} (x : Except Trouble β) :
    FailsOnly Invalid.Spares (named name x) := by
  unfold named
  split
  · exact .ok _
  · exact .error (Invalid.spares nofun)
  · exact .error (Invalid.spares nofun)

theorem failsOnly_toInteger (rounding : Float → Option Int) (x : Float) :
    FailsOnly Invalid.Spares (toInteger name rounding x) := by
  unfold toInteger
  split
  · exact .ok _
  · split
    · exact .error (Invalid.spares nofun)
    · exact .error (Invalid.spares nofun)

section

omit [Scalar.Sparing α] [Scalar α]

theorem failsOnly_requireNumber (a : Quantity α) :
    FailsOnly CalcError.Spares (requireNumber name a) :=
  .guard (Mismatch.spares nofun) (.ok _)

theorem failsOnly_requireAngle (a : Quantity α) :
    FailsOnly CalcError.Spares (requireAngle name a) :=
  .guard (Mismatch.spares nofun) (.ok _)

theorem failsOnly_requireSame (a b : Quantity α) :
    FailsOnly CalcError.Spares (requireSame name a b) :=
  .guard (Mismatch.spares nofun) (.ok _)

end

omit [Scalar.Sparing α] in
theorem failsOnly_applyElementary (f : Elementary) (a : Quantity α) :
    FailsOnly CalcError.Spares (applyElementary f a) := by
  have hvalue := failsOnly_invalid (failsOnly_named f.name (Scalar.elementary f a.scalar))
  unfold applyElementary
  dsimp only
  split
  · exact (failsOnly_requireAngle _ a).bind fun _ => hvalue.bind fun _ => .ok _
  · exact (failsOnly_requireNumber _ a).bind fun _ => hvalue.bind fun _ => .ok _

theorem failsOnly_applyUnary (f : Builtin) (a : Quantity α) :
    FailsOnly CalcError.Spares (applyUnary f a) := by
  have hinteger (name : String) (rounding : Float → Option Int) :=
    failsOnly_invalid (failsOnly_toInteger name rounding (Scalar.re a.scalar))
  cases f with
  | abs => exact (failsOnly_invalid (failsOnly_named _ _)).bind fun _ => .ok _
  | sqrt => exact (failsOnly_invalid (Scalar.Sparing.sqrt _)).bind fun _ => .ok _
  | elementary f => exact failsOnly_applyElementary f a
  | floor | ceil | round => exact (hinteger _ _).bind fun _ => .ok _
  | gamma =>
    exact (failsOnly_requireNumber _ a).bind fun _ =>
      (failsOnly_invalid (Scalar.Sparing.gamma _)).bind fun _ => .ok _
  | re | im | conj => exact .ok _
  | arg =>
    exact (failsOnly_requireNumber _ a).bind fun _ =>
      (failsOnly_invalid (failsOnly_named _ _)).bind fun _ => .ok _
  | _ => exact .error (Missing.spares _)

omit [Scalar.Sparing α] in
theorem failsOnly_applyRoundPlaces (a digits : Quantity α) :
    FailsOnly Fault.Spares (applyRoundPlaces a digits) := by
  refine (failsOnly_error (failsOnly_requireNumber _ digits)).bind fun _ => ?_
  split
  · exact .error (Invalid.spares nofun)
  · split
    · exact .ok _
    · exact .error trivial

omit [Scalar.Sparing α] in
theorem failsOnly_applyBinary (f : Builtin) (a b : Quantity α) :
    FailsOnly Fault.Spares (applyBinary f a b) := by
  cases f with
  | roundPlaces => exact failsOnly_applyRoundPlaces a b
  | atan2 | min | max =>
    exact (failsOnly_error (failsOnly_requireSame _ a b)).bind fun _ => .ok _
  | _ => exact .error (Missing.spares _)

/-- **A built-in function** does not blame a number. -/
theorem failsOnly_apply (f : Builtin) (arguments : List (Quantity α)) :
    FailsOnly Fault.Spares (f.apply arguments) := by
  unfold apply
  split
  · exact failsOnly_error (failsOnly_applyUnary f _)
  · exact failsOnly_applyBinary f _ _
  · exact .error (Missing.spares _)

end Builtin
end QuantityCalculus
