/-
# Units

A unit is a formal product of base symbols with rational exponents, such as `kg m^2 s^-2`.
It is kept in canonical form: the symbols ascend strictly and no exponent is zero. So two
units are equal exactly when every symbol has the same exponent in both.

**Main statements.**

* `exponent_ofList`: the exponent of a symbol is the sum of the exponents it was given.
* `exponent_mul`, `exponent_div`, `exponent_pow`: what the operations do to exponents.
* `ext_exponent`: units with the same exponents are equal.
-/

namespace QuantityCalculus

/-- A product of base symbols with non-zero exponents, in ascending order of symbols. -/
structure Units where
  factors : List (String × Rat)
  ascending : factors.Pairwise fun a b => a.1 < b.1
  nonzero : ∀ f ∈ factors, f.2 ≠ 0

namespace Units

instance : DecidableEq Units := fun a b =>
  decidable_of_iff (a.factors = b.factors)
    ⟨fun h => by cases a; cases b; cases h; rfl, fun h => h ▸ rfl⟩

/-- The empty product: no dimension at all. -/
def none : Units := ⟨[], .nil, by simp⟩

instance : Inhabited Units := ⟨none⟩

/-- Whether a unit is the empty product. -/
def isNone (u : Units) : Bool := u.factors.isEmpty

/-- The factor put in front, unless its exponent is zero. -/
def consFactor (s : String) (q : Rat) (fs : List (String × Rat)) : List (String × Rat) :=
  if q = 0 then fs else (s, q) :: fs

/-- Adds `q` to the exponent of `s` in an ascending list of factors. -/
def addFactor (s : String) (q : Rat) : List (String × Rat) → List (String × Rat)
  | [] => consFactor s q []
  | (t, r) :: rest =>
    if s < t then consFactor s q ((t, r) :: rest)
    else if s = t then consFactor t (r + q) rest
    else (t, r) :: addFactor s q rest

/-- The exponent of a symbol in a list of factors, zero when it has no factor. -/
def exponentIn (s : String) : List (String × Rat) → Rat
  | [] => 0
  | (t, r) :: rest => if t = s then r else exponentIn s rest

theorem mem_consFactor {s : String} {q : Rat} {fs : List (String × Rat)} {f : String × Rat}
    (h : f ∈ consFactor s q fs) : f = (s, q) ∧ q ≠ 0 ∨ f ∈ fs := by
  unfold consFactor at h
  split at h
  · exact Or.inr h
  · rename_i hq
    rcases List.mem_cons.1 h with h | h
    · exact Or.inl ⟨h, hq⟩
    · exact Or.inr h

theorem mem_addFactor {s : String} {q : Rat} {fs : List (String × Rat)} {f : String × Rat}
    (h : f ∈ addFactor s q fs) : (f.1 = s ∨ ∃ g ∈ fs, f.1 = g.1) ∧ (f ∈ fs ∨ f.2 ≠ 0) := by
  induction fs with
  | nil =>
    rcases mem_consFactor h with ⟨rfl, hq⟩ | h
    · exact ⟨Or.inl rfl, Or.inr hq⟩
    · cases h
  | cons g rest ih =>
    obtain ⟨t, r⟩ := g
    unfold addFactor at h
    split at h
    · rcases mem_consFactor h with ⟨rfl, hq⟩ | h
      · exact ⟨Or.inl rfl, Or.inr hq⟩
      · exact ⟨Or.inr ⟨f, h, rfl⟩, Or.inl h⟩
    · split at h
      · rcases mem_consFactor h with ⟨rfl, hq⟩ | h
        · exact ⟨Or.inr ⟨(t, r), by simp, rfl⟩, Or.inr hq⟩
        · exact ⟨Or.inr ⟨f, by simp [h], rfl⟩, Or.inl (by simp [h])⟩
      · rcases List.mem_cons.1 h with rfl | h
        · exact ⟨Or.inr ⟨_, by simp, rfl⟩, Or.inl (by simp)⟩
        · obtain ⟨h1, h2⟩ := ih h
          refine ⟨h1.imp id fun ⟨g, hg, e⟩ => ⟨g, by simp [hg], e⟩, h2.imp (fun h => ?_) id⟩
          simp [h]

theorem lt_of_not_lt {s t : String} (h : ¬s < t) (hne : s ≠ t) : t < s :=
  Decidable.byContradiction fun h' =>
    hne (String.le_antisymm (String.not_lt.1 h') (String.not_lt.1 h))

theorem ascending_consFactor {s : String} {q : Rat} {fs : List (String × Rat)}
    (h : fs.Pairwise fun a b => a.1 < b.1) (hs : ∀ f ∈ fs, s < f.1) :
    (consFactor s q fs).Pairwise fun a b => a.1 < b.1 := by
  unfold consFactor
  split
  · exact h
  · exact List.pairwise_cons.2 ⟨hs, h⟩

theorem ascending_addFactor (s : String) (q : Rat) {fs : List (String × Rat)}
    (h : fs.Pairwise fun a b => a.1 < b.1) :
    (addFactor s q fs).Pairwise fun a b => a.1 < b.1 := by
  induction fs with
  | nil => exact ascending_consFactor h (by simp)
  | cons g rest ih =>
    obtain ⟨t, r⟩ := g
    obtain ⟨ht, hrest⟩ := List.pairwise_cons.1 h
    unfold addFactor
    split
    · rename_i hst
      refine ascending_consFactor h fun f hf => ?_
      rcases List.mem_cons.1 hf with rfl | hf
      · exact hst
      · exact String.lt_trans hst (ht f hf)
    · split
      · exact ascending_consFactor hrest ht
      · rename_i h1 h2
        refine List.pairwise_cons.2 ⟨fun f hf => ?_, ih hrest⟩
        rcases (mem_addFactor hf).1 with e | ⟨g, hg, e⟩
        · exact e ▸ lt_of_not_lt h1 h2
        · exact e ▸ ht g hg

theorem nonzero_addFactor (s : String) (q : Rat) {fs : List (String × Rat)}
    (h : ∀ f ∈ fs, f.2 ≠ 0) : ∀ f ∈ addFactor s q fs, f.2 ≠ 0 :=
  fun f hf => (mem_addFactor hf).2.elim (h f) id

/-- The unit times one symbol to a power. -/
def times (u : Units) (s : String) (q : Rat) : Units :=
  ⟨addFactor s q u.factors, ascending_addFactor s q u.ascending, nonzero_addFactor s q u.nonzero⟩

/-- The unit times a list of powers of symbols, which may repeat and come in any order. -/
def timesList (u : Units) (fs : List (String × Rat)) : Units :=
  fs.foldl (fun u f => u.times f.1 f.2) u

/-- The product of a list of powers of symbols. -/
def ofList (fs : List (String × Rat)) : Units := none.timesList fs

/-- One symbol to the first power. -/
def ofSymbol (s : String) : Units := ofList [(s, 1)]

/-- The factors, in ascending order of symbols. -/
def toList (u : Units) : List (String × Rat) := u.factors

/-- The exponent of a symbol, zero when it does not occur. -/
def exponent (u : Units) (s : String) : Rat := exponentIn s u.factors

/-- The exponent of a symbol that occurs. -/
def get? (u : Units) (s : String) : Option Rat :=
  (u.factors.find? fun f => f.1 = s).map (·.2)

/-- The product of two units. -/
def mul (u v : Units) : Units := u.timesList v.factors

/-- The quotient of two units. -/
def div (u v : Units) : Units := u.timesList (v.factors.map fun f => (f.1, -f.2))

/-- A unit to a rational power. -/
def pow (u : Units) (q : Rat) : Units := ofList (u.factors.map fun f => (f.1, f.2 * q))

instance : Mul Units := ⟨mul⟩
instance : Div Units := ⟨div⟩

theorem exponentIn_eq_zero {s : String} {fs : List (String × Rat)} (h : ∀ f ∈ fs, f.1 ≠ s) :
    exponentIn s fs = 0 := by
  induction fs with
  | nil => rfl
  | cons g rest ih =>
    have := h g (by simp)
    simp only [exponentIn, this, if_false]
    exact ih fun f hf => h f (by simp [hf])

/-- No factor above `s` is a factor of `s`. -/
theorem ne_of_forall_lt {s : String} {fs : List (String × Rat)} (h : ∀ f ∈ fs, s < f.1) :
    ∀ f ∈ fs, f.1 ≠ s := by
  intro f hf e
  have := h f hf
  rw [e] at this
  exact String.lt_irrefl s this

/-- What is above the first factor and it are above all that is below it. -/
theorem forall_cons_lt {s t : String} {r : Rat} {fs : List (String × Rat)} (hst : s < t)
    (h : ∀ f ∈ fs, t < f.1) : ∀ f ∈ (t, r) :: fs, s < f.1 := by
  intro f hf
  rcases List.mem_cons.1 hf with rfl | hf
  · exact hst
  · exact String.lt_trans hst (h f hf)

theorem exponentIn_consFactor (s t : String) (q : Rat) {fs : List (String × Rat)}
    (h : ∀ f ∈ fs, t < f.1) :
    exponentIn s (consFactor t q fs) = if t = s then q else exponentIn s fs := by
  unfold consFactor
  split
  · rename_i hq
    split
    · rename_i e
      subst e
      rw [hq]
      exact exponentIn_eq_zero (ne_of_forall_lt h)
    · rfl
  · simp [exponentIn]

theorem exponentIn_addFactor (s t : String) (q : Rat) {fs : List (String × Rat)}
    (h : fs.Pairwise fun a b => a.1 < b.1) :
    exponentIn s (addFactor t q fs) = exponentIn s fs + if t = s then q else 0 := by
  induction fs with
  | nil =>
    rw [addFactor, exponentIn_consFactor _ _ _ (by simp)]
    split <;> simp [exponentIn, Rat.zero_add]
  | cons g rest ih =>
    obtain ⟨u, r⟩ := g
    obtain ⟨hu, hrest⟩ := List.pairwise_cons.1 h
    unfold addFactor
    split
    · rename_i htu
      rw [exponentIn_consFactor _ _ _ (forall_cons_lt htu hu)]
      split
      · rename_i e
        subst e
        rw [exponentIn_eq_zero (ne_of_forall_lt (forall_cons_lt htu hu)), Rat.zero_add]
      · rw [Rat.add_zero]
    · split
      · rename_i e
        subst e
        rw [exponentIn_consFactor _ _ _ hu]
        simp only [exponentIn]
        split
        · rfl
        · rw [Rat.add_zero]
      · rename_i h1 h2
        simp only [exponentIn]
        split
        · rename_i e
          subst e
          rw [if_neg h2, Rat.add_zero]
        · exact ih hrest

@[simp] theorem exponent_none (s : String) : none.exponent s = 0 := rfl

theorem exponent_times (u : Units) (t : String) (q : Rat) (s : String) :
    (u.times t q).exponent s = u.exponent s + if t = s then q else 0 :=
  exponentIn_addFactor s t q u.ascending

/-- The sum of the exponents that a list of powers gives to a symbol. -/
def total (s : String) : List (String × Rat) → Rat
  | [] => 0
  | f :: rest => (if f.1 = s then f.2 else 0) + total s rest

/-- **Multiplying by a list adds its exponents up.** -/
theorem exponent_timesList (u : Units) (fs : List (String × Rat)) (s : String) :
    (u.timesList fs).exponent s = u.exponent s + total s fs := by
  induction fs generalizing u with
  | nil => simp [timesList, total, Rat.add_zero]
  | cons f rest ih =>
    rw [show u.timesList (f :: rest) = (u.times f.1 f.2).timesList rest from rfl, ih,
      exponent_times, total, Rat.add_assoc]

/-- **The exponent of a symbol is the sum** of the exponents it was given. -/
theorem exponent_ofList (fs : List (String × Rat)) (s : String) :
    (ofList fs).exponent s = total s fs := by
  rw [ofList, exponent_timesList, exponent_none, Rat.zero_add]

/-- Two ascending lists of non-zero factors with the same exponents are the same list. -/
theorem factors_ext {fs gs : List (String × Rat)}
    (hf : fs.Pairwise fun a b => a.1 < b.1) (hg : gs.Pairwise fun a b => a.1 < b.1)
    (nf : ∀ f ∈ fs, f.2 ≠ 0) (ng : ∀ g ∈ gs, g.2 ≠ 0)
    (h : ∀ s, exponentIn s fs = exponentIn s gs) : fs = gs := by
  induction fs generalizing gs with
  | nil =>
    cases gs with
    | nil => rfl
    | cons g rest =>
      have := h g.1
      simp only [exponentIn, if_true] at this
      exact absurd this.symm (ng g (by simp))
  | cons f rest ih =>
    obtain ⟨s, q⟩ := f
    obtain ⟨hs, hrest⟩ := List.pairwise_cons.1 hf
    cases gs with
    | nil =>
      have := h s
      simp only [exponentIn, if_true] at this
      exact absurd this (nf (s, q) (by simp))
    | cons g more =>
      obtain ⟨t, r⟩ := g
      obtain ⟨ht, hmore⟩ := List.pairwise_cons.1 hg
      have hq : q ≠ 0 := nf (s, q) (by simp)
      have hr : r ≠ 0 := ng (t, r) (by simp)
      have est : s = t := by
        refine Decidable.byContradiction fun hne => ?_
        rcases Decidable.em (s < t) with hlt | hlt
        · have := h s
          rw [exponentIn, if_pos rfl,
            exponentIn_eq_zero (ne_of_forall_lt (forall_cons_lt hlt ht))] at this
          exact hq this
        · have hts := lt_of_not_lt hlt hne
          have := h t
          rw [exponentIn_eq_zero (ne_of_forall_lt (forall_cons_lt hts hs)), exponentIn,
            if_pos rfl] at this
          exact hr this.symm
      subst est
      have eqr : q = r := by simpa [exponentIn] using h s
      subst eqr
      refine congrArg _ (ih hrest hmore (fun f hf => nf f (by simp [hf]))
        (fun g hg => ng g (by simp [hg])) fun u => ?_)
      by_cases e : s = u
      · subst e
        rw [exponentIn_eq_zero (ne_of_forall_lt hs), exponentIn_eq_zero (ne_of_forall_lt ht)]
      · simpa [exponentIn, e] using h u

/-- **Units with the same exponents are equal.** -/
theorem ext_exponent {u v : Units} (h : ∀ s, u.exponent s = v.exponent s) : u = v := by
  obtain ⟨fs, hf, nf⟩ := u
  obtain ⟨gs, hg, ng⟩ := v
  obtain rfl := factors_ext hf hg nf ng h
  rfl

theorem total_factors {fs : List (String × Rat)} (h : fs.Pairwise fun a b => a.1 < b.1)
    (s : String) : total s fs = exponentIn s fs := by
  induction fs with
  | nil => rfl
  | cons f rest ih =>
    obtain ⟨t, r⟩ := f
    obtain ⟨ht, hrest⟩ := List.pairwise_cons.1 h
    rw [total, exponentIn, ih hrest]
    simp only
    split
    · rename_i e
      subst e
      rw [exponentIn_eq_zero (ne_of_forall_lt ht), Rat.add_zero]
    · rw [Rat.zero_add]

/-- **Exponents of a product add.** -/
theorem exponent_mul (u v : Units) (s : String) :
    (u * v).exponent s = u.exponent s + v.exponent s := by
  show (u.timesList v.factors).exponent s = _
  rw [exponent_timesList, total_factors v.ascending, exponent]
  rfl

theorem total_map_mul (fs : List (String × Rat)) (q : Rat) (s : String) :
    total s (fs.map fun f => (f.1, f.2 * q)) = total s fs * q := by
  induction fs with
  | nil => simp [total, Rat.zero_mul]
  | cons f rest ih =>
    simp only [List.map_cons, total, ih, Rat.add_mul]
    split
    · rfl
    · rw [Rat.zero_mul]

/-- **Exponents of a power are multiplied.** -/
theorem exponent_pow (u : Units) (q : Rat) (s : String) :
    (u.pow q).exponent s = u.exponent s * q := by
  rw [pow, exponent_ofList, total_map_mul, total_factors u.ascending, exponent]

/-- **Exponents of a quotient subtract.** -/
theorem exponent_div (u v : Units) (s : String) :
    (u / v).exponent s = u.exponent s - v.exponent s := by
  have e : (v.factors.map fun f => (f.1, -f.2)) = v.factors.map fun f => (f.1, f.2 * -1) := by
    simp [Rat.mul_neg, Rat.mul_one]
  show (u.timesList (v.factors.map fun f => (f.1, -f.2))).exponent s = _
  rw [exponent_timesList, e, total_map_mul, total_factors v.ascending, Rat.mul_neg, Rat.mul_one,
    ← Rat.sub_eq_add_neg]
  rfl

end Units
end QuantityCalculus
