/-
# Values through JSON

Units come back from JSON as they were, and so do quantities and variables but for their
scalars. A scalar comes back as what its JSON value stands for: a real one as it was, a complex
one whose imaginary part is zero with a positive zero. No scalar that counts as true comes back
as zero.

**Main statements.**

* `toUnits_ofUnits`, `toQuantity_ofQuantity`, `toVariable_ofVariable`: what comes back.
* `Portable`: what is needed of scalars, and instances for both kinds.
-/

import QuantityCalculus.Proofs.Except
import QuantityCalculus.Scalar.Complex
import QuantityCalculus.Snapshot.Units

namespace QuantityCalculus

/-! ### Scalars -/

/-- A scalar as its JSON value gives it back. -/
def Scalar.reloaded {α : Type} [Scalar α] (x : α) : α :=
  match (Scalar.ofJson (Scalar.toJson x) : Except Fault α) with
  | .ok y => y
  | .error _ => x

/-- Scalars that come back from JSON, and do not become zero on the way. -/
class Portable (α : Type) [Scalar α] : Prop where
  ofJson_toJson : ∀ x : α, Scalar.ofJson (Scalar.toJson x) = .ok (Scalar.reloaded x)
  isTrue_reloaded : ∀ x : α, Scalar.isTrue x = true → Scalar.isTrue (Scalar.reloaded x) = true

instance : Portable Float where
  ofJson_toJson _ := rfl
  isTrue_reloaded _ h := h

theorem complexOfJson_toJson (z : Complex) :
    complexOfJson (complexToJson z) = .ok (if z.im == 0.0 then .ofReal z.re else z) := by
  unfold complexToJson
  split
  · rfl
  · rfl

theorem Complex.reloaded_eq (z : Complex) :
    Scalar.reloaded z = if z.im == 0.0 then .ofReal z.re else z := by
  have h : (Scalar.ofJson (Scalar.toJson z) : Except Fault Complex) = _ := complexOfJson_toJson z
  rw [Scalar.reloaded, h]

instance : Portable Complex where
  ofJson_toJson z := by
    rw [Complex.reloaded_eq]
    exact complexOfJson_toJson z
  isTrue_reloaded z h := by
    rw [Complex.reloaded_eq]
    split
    · rename_i him
      have hre : (z.re == 0.0) = false := by
        have h : (!(z.re == 0.0 && z.im == 0.0)) = true := h
        simpa [him] using h
      show (!(z.re == 0.0 && (0.0 : Float) == 0.0)) = true
      rw [hre]
      rfl
    · exact h

namespace Snapshot

/-! ### Units -/

/-- A factor as a list of its symbol and the integers of its exponent. -/
theorem exists_dimension (s : String) (q : Rat) :
    ∃ numbers, dimension s q = .arr (.str s :: numbers) ∧
      toDimension (.str s :: numbers) = .ok (s, q) := by
  unfold dimension
  split
  · rename_i hden
    have hq : (q.num : Rat) = q := Rat.ext (by simp) (by simp [hden])
    exact ⟨_, rfl, by simp [toDimension, integers?, hq]⟩
  · have hq : (q.num : Rat) / ((q.den : Int) : Rat) = q := by
      rw [← Rat.divInt_eq_div, Rat.num_divInt_den]
    have hden : (q.den : Int) ≠ 0 := Int.natCast_ne_zero.2 q.den_nz
    have hnumbers : toDimension [.str s, .int q.num, .int q.den] =
        if (q.den : Int) = 0 then .error (.zeroDenominator s)
        else .ok (s, (q.num : Rat) / ((q.den : Int) : Rat)) :=
      rfl
    rw [if_neg hden, hq] at hnumbers
    exact ⟨_, rfl, hnumbers⟩

/-- A unit is the product of its own factors. -/
theorem ofList_toList (u : Units) : Units.ofList u.toList = u :=
  Units.ext_exponent fun s => by
    rw [Units.exponent_ofList, Units.toList, Units.total_factors u.ascending, Units.exponent]

/-- A factor among others. -/
def ofFactor (f : String × Rat) : Json := if f.2 = 1 then .arr [.str f.1] else dimension f.1 f.2

theorem toDimensionItem_ofFactor (f : String × Rat) : toDimensionItem (ofFactor f) = .ok f := by
  obtain ⟨s, q⟩ := f
  unfold ofFactor
  split
  · rename_i h
    obtain rfl : q = 1 := h
    rfl
  · obtain ⟨numbers, heq, h⟩ := exists_dimension s q
    rw [heq]
    exact h

/-- No list starts as a single factor does. -/
theorem toUnits_list {f : String × Rat} {fs : List (String × Rat)} :
    toUnits (.arr ((f :: fs).map ofFactor)) = .ok (.ofList (f :: fs)) := by
  have harr : ∃ items, ofFactor f = .arr items := by
    unfold ofFactor
    split
    · exact ⟨_, rfl⟩
    · obtain ⟨numbers, heq, -⟩ := exists_dimension f.1 f.2
      exact ⟨_, heq⟩
  obtain ⟨items, hitems⟩ := harr
  have hmap := Except.mapM_map_eq_ok fun g (_ : g ∈ f :: fs) => toDimensionItem_ofFactor g
  rw [List.map_cons, hitems] at hmap ⊢
  rw [toUnits]
  · rw [hmap]
    rfl
  · simp
  · simp

/-- **Units come back.** -/
theorem toUnits_ofUnits (u : Units) : toUnits (ofUnits u) = .ok u := by
  have hlist := ofList_toList u
  unfold ofUnits
  cases hu : u.toList with
  | nil =>
    rw [hu] at hlist
    rw [← hlist]
    rfl
  | cons f fs =>
    rw [hu] at hlist
    cases fs with
    | nil =>
      obtain ⟨s, q⟩ := f
      dsimp only
      split
      · rename_i hq
        rw [hq] at hlist
        rw [← hlist]
        rfl
      · obtain ⟨numbers, heq, h⟩ := exists_dimension s q
        rw [heq, toUnits, h, ← hlist]
        rfl
    | cons g fs =>
      rw [← hlist]
      exact toUnits_list

end Snapshot

/-! ### Quantities and variables -/

variable {α : Type} [Scalar α]

/-- A quantity as its JSON value gives it back. -/
def Quantity.reloaded (q : Quantity α) : Quantity α := ⟨Scalar.reloaded q.scalar, q.units⟩

/-- A variable as its JSON value gives it back. -/
def Variable.reloaded (v : Variable α) : Variable α := ⟨v.value.reloaded, v.description⟩

/-- An output unit as its JSON value gives it back. -/
def OutputUnit.reloaded (u : OutputUnit α) : OutputUnit α :=
  { u with factor := Scalar.reloaded u.factor }

namespace Snapshot

variable [Portable α]

theorem toScalar_toJson (x : α) :
    toScalar (Scalar.toJson x) = .ok (Scalar.reloaded x) := by
  rw [toScalar, Portable.ofJson_toJson]

theorem unitsOf_ofUnits (u : Units) : unitsOf (ofUnits u) = .ok u := by
  rw [unitsOf, toUnits_ofUnits]
  rfl

/-- **Quantities come back,** but for their scalars. -/
theorem toQuantity_ofQuantity (q : Quantity α) :
    toQuantity (ofQuantity q) = .ok q.reloaded := by
  obtain ⟨x, u⟩ := q
  have hunits : unitsOf (((ofQuantity ⟨x, u⟩).get? "u").getD (.arr [])) = .ok u := by
    unfold ofQuantity
    split
    · rename_i hpure
      have hnone : u = .none := Units.ext_exponent fun s => by
        have : u.factors = [] := by simpa [Quantity.isPure, Units.isNone] using hpure
        rw [Units.exponent, this]
        rfl
      rw [hnone]
      rfl
    · exact unitsOf_ofUnits u
  have hscalar : (ofQuantity ⟨x, u⟩).get? "s" = some (Scalar.toJson x) := rfl
  rw [toQuantity, hscalar]
  dsimp only
  rw [toScalar_toJson, Except.ok_bind, hunits]
  rfl

/-- **Variables come back,** but for their scalars, if no description is empty. -/
theorem toVariable_ofVariable {v : Variable α} (h : v.description ≠ some "") :
    toVariable (ofVariable v) = .ok v.reloaded := by
  obtain ⟨q, description⟩ := v
  have hdescription : toDescription ((ofVariable ⟨q, description⟩).get? "d") = .ok description := by
    cases description with
    | none => rfl
    | some d =>
      have hd : d ≠ "" := fun hd => h (by rw [hd])
      have hget : (ofVariable ⟨q, some d⟩).get? "d" = some (.str d) := by
        simp [ofVariable, hd, Json.get?, Json.member?]
      rw [hget, toDescription, if_neg hd]
  have hquantity : (ofVariable ⟨q, description⟩).get? "q" = some (ofQuantity q) := rfl
  rw [toVariable, hquantity]
  dsimp only
  rw [hdescription, toQuantity_ofQuantity]
  rfl

/-- Variables can be read back. An empty description is left out, so it comes back as none. -/
theorem exists_toVariable (v : Variable α) :
    ∃ w : Variable α, toVariable (ofVariable v) = .ok w := by
  by_cases h : v.description = some ""
  · have hleft : ofVariable v = ofVariable ⟨v.value, none⟩ := by
      simp [ofVariable, h]
    have hnone : (⟨v.value, none⟩ : Variable α).description ≠ some "" := by simp
    rw [hleft]
    exact ⟨_, toVariable_ofVariable hnone⟩
  · exact ⟨_, toVariable_ofVariable h⟩

end Snapshot
end QuantityCalculus
