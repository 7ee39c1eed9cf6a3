/-
# The shapes of units in JSON

A unit can be spelled in JSON in many ways: as a symbol, as one dimension with no, one or two
integers for its exponent, or as a list of dimensions, in which symbols repeat and exponents may
be zero or unreduced. `Denotes` says which powers of symbols a value spells, and nothing else is
accepted (`toUnits_eq_ok_iff`).

Among the spellings of a unit one is canonical: a single factor is not put into a list, the symbols
of a list ascend, and every exponent has the fewest integers (`Shortest`). It is the one that is
written, and the canonical values are exactly those that are written as they were read.

**Main statement.** `units_codec`: writing and reading units.
-/

import Mathlib.Data.List.Forall2
import Mathlib.Data.Rat.Lemmas
import QuantityCalculus.Proofs.Snapshot.Values

namespace QuantityCalculus

/-- The values of a list are those of its items, one by one. -/
theorem Except.mapM_eq_ok_iff {ε α β : Type} {f : α → Except ε β} {as : List α} {bs : List β} :
    as.mapM f = .ok bs ↔ List.Forall₂ (fun a b => f a = .ok b) as bs := by
  induction as generalizing bs with
  | nil =>
    rw [List.mapM_nil, List.forall₂_nil_left_iff]
    exact ⟨fun h => by cases h; rfl, fun h => by rw [h]; rfl⟩
  | cons a as ih =>
    rw [List.mapM_cons, List.forall₂_cons_left_iff, Except.bind_eq_ok_iff]
    constructor
    · rintro ⟨b, hb, h⟩
      obtain ⟨bs', hbs, h⟩ := Except.bind_eq_ok_iff.1 h
      cases h
      exact ⟨b, bs', hb, ih.1 hbs, rfl⟩
    · rintro ⟨b, bs', hb, hbs, rfl⟩
      exact ⟨b, hb, Except.bind_eq_ok_iff.2 ⟨bs', ih.2 hbs, rfl⟩⟩

namespace Snapshot

/-! ### Exponents -/

/-- The exponent that up to two integers stand for. -/
inductive Stands : List Int → Rat → Prop where
  | one : Stands [] 1
  | whole (n : Int) : Stands [n] n
  | ratio (n : Int) {d : Int} (h : d ≠ 0) : Stands [n, d] ((n : Rat) / d)

theorem Stands.eq_one {q : Rat} (h : Stands [] q) : q = 1 := by
  generalize hns : ([] : List Int) = ns at h
  cases h with
  | one => rfl
  | whole n => cases hns
  | ratio n hd => cases hns

/-- The fewest integers for an exponent that is not zero. -/
inductive Shortest : List Int → Prop where
  | one : Shortest []
  | whole {n : Int} (zero : n ≠ 0) (one : n ≠ 1) : Shortest [n]
  | ratio {n d : Int} (reduced : n.gcd d = 1) (proper : 1 < d) : Shortest [n, d]

/-- The integers that are written for an exponent. -/
def exponentIntegers (q : Rat) : List Int :=
  if q = 1 then [] else if q.den = 1 then [q.num] else [q.num, q.den]

theorem stands_exponentIntegers (q : Rat) : Stands (exponentIntegers q) q := by
  unfold exponentIntegers
  split
  · rename_i hone
    rw [hone]
    exact .one
  · split
    · rename_i hden
      have hq : (q.num : Rat) = q := Rat.coe_int_num_of_den_eq_one hden
      have h := Stands.whole q.num
      rwa [hq] at h
    · have hq : (q.num : Rat) / ((q.den : Int) : Rat) = q := by
        rw [Int.cast_natCast, Rat.num_div_den]
      have h := Stands.ratio q.num (Int.natCast_ne_zero.2 q.den_nz)
      rwa [hq] at h

theorem shortest_exponentIntegers {q : Rat} (h : q ≠ 0) : Shortest (exponentIntegers q) := by
  unfold exponentIntegers
  split
  · exact .one
  · rename_i hone
    split
    · rename_i hden
      have hq : (q.num : Rat) = q := Rat.coe_int_num_of_den_eq_one hden
      refine .whole (Rat.num_ne_zero.2 h) fun hnum => hone ?_
      rw [← hq, hnum, Int.cast_one]
    · rename_i hden
      have hpos := q.den_pos
      exact .ratio (by simpa [Int.gcd] using q.reduced) (by omega)

/-- An exponent has only one list of fewest integers. -/
theorem Stands.eq_exponentIntegers {ns : List Int} {q : Rat} (h : Stands ns q)
    (hs : Shortest ns) : ns = exponentIntegers q := by
  cases h with
  | one => rfl
  | whole n =>
    cases hs with
    | whole zero one =>
      have hq : (n : Rat) ≠ 1 := fun h => one (by exact_mod_cast h)
      rw [exponentIntegers, if_neg hq, if_pos (Rat.den_intCast n), Rat.num_intCast]
  | ratio n hd =>
    rename_i d
    cases hs with
    | ratio reduced proper =>
      have hden : (((n : Rat) / d).den : Int) = d :=
        Rat.den_div_eq_of_coprime (by omega) (by simpa [Int.gcd] using reduced)
      have hnum : ((n : Rat) / d).num = n :=
        Rat.num_div_eq_of_coprime (by omega) (by simpa [Int.gcd] using reduced)
      have hwhole : ((n : Rat) / d).den ≠ 1 := fun h => by
        rw [h] at hden
        omega
      have hone : (n : Rat) / d ≠ 1 := fun h => hwhole (by rw [h]; rfl)
      rw [exponentIntegers, if_neg hone, if_neg hwhole, hnum, hden]

/-- Shortest integers stand for an exponent that is not zero. -/
theorem Shortest.exists_stands {ns : List Int} (h : Shortest ns) : ∃ q, Stands ns q ∧ q ≠ 0 := by
  cases h with
  | one => exact ⟨1, .one, one_ne_zero⟩
  | whole zero => exact ⟨_, .whole _, by exact_mod_cast zero⟩
  | ratio reduced proper =>
    rename_i n d
    have hd : d ≠ 0 := by omega
    have hn : n ≠ 0 := fun hn => by
      rw [hn, Int.gcd_zero_left] at reduced
      omega
    exact ⟨_, .ratio n hd, div_ne_zero (by exact_mod_cast hn) (by exact_mod_cast hd)⟩

/-! ### Dimensions -/

/-- A symbol with the integers of its exponent. -/
def dimensionOf (symbol : String) (ns : List Int) : Json := .arr (.str symbol :: ns.map .int)

theorem integers?_eq_some_iff {items : List Json} {ns : List Int} :
    integers? items = some ns ↔ items = ns.map .int := by
  induction items generalizing ns with
  | nil => simp [integers?, eq_comm]
  | cons item rest ih =>
    cases item with
    | int n =>
      rw [integers?, Option.map_eq_some_iff]
      constructor
      · rintro ⟨ms, hms, rfl⟩
        rw [ih.1 hms, List.map_cons]
      · intro h
        cases ns with
        | nil => cases h
        | cons m ms =>
          obtain ⟨hm, hms⟩ := List.cons.inj h
          cases hm
          exact ⟨ms, ih.2 hms, rfl⟩
    | _ => cases ns <;> simp [integers?]

/-- A list is a dimension exactly if it is a symbol with integers that stand for an exponent. -/
theorem toDimension_eq_ok_iff {items : List Json} {f : String × Rat} :
    toDimension items = .ok f ↔ ∃ ns, items = .str f.1 :: ns.map .int ∧ Stands ns f.2 := by
  constructor
  · intro h
    unfold toDimension at h
    split at h
    · rename_i symbol numbers
      split at h
      · cases h
      · rename_i hsize
        split at h
        · cases h
        · rename_i hns
          cases h
          exact ⟨[], by rw [integers?_eq_some_iff.1 hns], .one⟩
        · rename_i n hns
          cases h
          exact ⟨[n], by rw [integers?_eq_some_iff.1 hns], .whole n⟩
        · rename_i n d rest hns
          have hnumbers := integers?_eq_some_iff.1 hns
          have hrest : rest = [] := by
            rw [hnumbers, List.length_map, List.length_cons, List.length_cons] at hsize
            exact List.length_eq_zero_iff.1 (by omega)
          split at h
          · cases h
          · rename_i hd
            cases h
            exact ⟨[n, d], by rw [hnumbers, hrest], .ratio n hd⟩
    · cases h
  · rintro ⟨ns, rfl, hq⟩
    obtain ⟨s, q⟩ := f
    cases hq with
    | one => rfl
    | whole n => rfl
    | ratio n hd =>
      rename_i d
      have h : toDimension [.str s, .int n, .int d] =
          if d = 0 then .error (.zeroDenominator s) else .ok (s, (n : Rat) / d) :=
        rfl
      exact h.trans (if_neg hd)

theorem toDimensionItem_eq_ok_iff {item : Json} {f : String × Rat} :
    toDimensionItem item = .ok f ↔ ∃ ns, item = dimensionOf f.1 ns ∧ Stands ns f.2 := by
  cases item with
  | arr items => simp [toDimensionItem, toDimension_eq_ok_iff, dimensionOf]
  | _ => simp [toDimensionItem, dimensionOf]

/-- A factor is written with the fewest integers. -/
theorem ofFactor_eq (f : String × Rat) : ofFactor f = dimensionOf f.1 (exponentIntegers f.2) := by
  unfold ofFactor dimension dimensionOf exponentIntegers
  split
  · rfl
  · split <;> rfl

theorem map_ofFactor (fs : List (String × Rat)) : fs.map ofFactor =
    (fs.map fun f => (f.1, exponentIntegers f.2)).map fun d => dimensionOf d.1 d.2 := by
  rw [List.map_map]
  exact List.map_congr_left fun f _ => ofFactor_eq f

/-! ### Units -/

/-- The powers of symbols that a JSON value spells. -/
inductive Denotes : Json → List (String × Rat) → Prop where
  | symbol (s : String) : Denotes (.str s) [(s, 1)]
  | dimension (s : String) {ns : List Int} {q : Rat} (h : Stands ns q) :
      Denotes (dimensionOf s ns) [(s, q)]
  | product {items : List Json} {fs : List (String × Rat)}
      (h : List.Forall₂ (fun item f => ∃ ns, item = dimensionOf f.1 ns ∧ Stands ns f.2) items fs) :
      Denotes (.arr items) fs

/-- The values that are written: a symbol, a power of one, or not exactly one factor in a list,
with ascending symbols and the fewest integers. -/
inductive Canonical : Json → Prop where
  | symbol (s : String) : Canonical (.str s)
  | power (s : String) {ns : List Int} (shortest : Shortest ns) (written : ns ≠ []) :
      Canonical (dimensionOf s ns)
  | product {ds : List (String × List Int)} (several : ds.length ≠ 1)
      (ascending : ds.Pairwise fun a b => a.1 < b.1) (shortest : ∀ d ∈ ds, Shortest d.2) :
      Canonical (.arr (ds.map fun d => dimensionOf d.1 d.2))

/-- A list of dimensions does not start as a single one does. -/
theorem toUnits_arr {items : List Json} (h : ∀ s rest, items ≠ .str s :: rest) :
    toUnits (.arr items) = (do return .ofList (← items.mapM toDimensionItem)) := by
  cases items with
  | nil => rfl
  | cons item rest =>
    cases item with
    | str s => exact absurd rfl (h s rest)
    | _ => rfl

/-- **What is accepted as a unit,** and which unit it is. -/
theorem toUnits_eq_ok_iff {raw : Json} {u : Units} :
    toUnits raw = .ok u ↔ ∃ fs, Denotes raw fs ∧ u = .ofList fs := by
  constructor
  · intro h
    unfold toUnits at h
    split at h
    · cases h
      exact ⟨_, .symbol _, rfl⟩
    · cases h
      exact ⟨[], .product .nil, rfl⟩
    · obtain ⟨f, hf, hu⟩ := Except.bind_eq_ok_iff.1 h
      cases hu
      obtain ⟨ns, hitems, hq⟩ := toDimension_eq_ok_iff.1 hf
      refine ⟨[f], ?_, rfl⟩
      rw [hitems]
      exact .dimension f.1 hq
    · obtain ⟨fs, hfs, hu⟩ := Except.bind_eq_ok_iff.1 h
      cases hu
      refine ⟨fs, .product ?_, rfl⟩
      exact (Except.mapM_eq_ok_iff.1 hfs).imp fun _ _ => toDimensionItem_eq_ok_iff.1
    · cases h
  · rintro ⟨fs, hfs, rfl⟩
    cases hfs with
    | symbol s => rfl
    | dimension s hq =>
      rename_i q
      have h : toDimension _ = .ok (s, q) := toDimension_eq_ok_iff.2 ⟨_, rfl, hq⟩
      rw [dimensionOf, toUnits, h]
      rfl
    | product h =>
      have hitems := Except.mapM_eq_ok_iff.2 (h.imp fun _ _ => toDimensionItem_eq_ok_iff.2)
      rw [toUnits_arr, hitems]
      · rfl
      · rintro s rest rfl
        cases h with
        | cons hitem => exact absurd hitem (by simp [dimensionOf])

/-- A unit is written in one of three ways. -/
theorem ofUnits_eq (u : Units) :
    (∃ s, u.toList = [(s, 1)] ∧ ofUnits u = .str s) ∨
    (∃ f, u.toList = [f] ∧ f.2 ≠ 1 ∧ ofUnits u = ofFactor f) ∨
    (u.toList.length ≠ 1 ∧ ofUnits u = .arr (u.toList.map ofFactor)) := by
  unfold ofUnits
  split
  · rename_i hu
    rw [hu]
    exact .inr (.inr ⟨by simp, rfl⟩)
  · rename_i s q hu
    split
    · rename_i hq
      exact .inl ⟨s, by rw [hu, hq], rfl⟩
    · rename_i hq
      exact .inr (.inl ⟨(s, q), hu, hq, by rw [ofFactor, if_neg hq]⟩)
  · rename_i hnil hone
    refine .inr (.inr ⟨fun h => ?_, rfl⟩)
    obtain ⟨f, hf⟩ := List.length_eq_one_iff.1 h
    exact hone f.1 f.2 hf

/-- What is written is canonical. -/
theorem canonical_ofUnits (u : Units) : Canonical (ofUnits u) := by
  have hshortest : ∀ f ∈ u.toList, Shortest (exponentIntegers f.2) := fun f hf =>
    shortest_exponentIntegers (u.nonzero f hf)
  obtain ⟨s, -, h⟩ | ⟨f, hu, hf, h⟩ | ⟨hlength, h⟩ := ofUnits_eq u
  · rw [h]
    exact .symbol s
  · rw [h, ofFactor_eq]
    refine .power f.1 (hshortest f (by rw [hu]; exact List.mem_singleton_self f)) fun hnil => hf ?_
    have hstands := stands_exponentIntegers f.2
    rw [hnil] at hstands
    exact hstands.eq_one
  · rw [h, map_ofFactor]
    refine .product (by rwa [List.length_map]) (List.pairwise_map.2 u.ascending) fun d hd => ?_
    obtain ⟨f, hf, rfl⟩ := List.mem_map.1 hd
    exact hshortest f hf

/-- Ascending factors with exponents that are not zero are those of their product. -/
theorem toList_ofList {fs : List (String × Rat)} (ascending : fs.Pairwise fun a b => a.1 < b.1)
    (nonzero : ∀ f ∈ fs, f.2 ≠ 0) : (Units.ofList fs).toList = fs := by
  have h : Units.ofList fs = ⟨fs, ascending, nonzero⟩ := Units.ext_exponent fun s => by
    rw [Units.exponent_ofList, Units.total_factors ascending, Units.exponent]
  rw [h]
  rfl

/-- A single factor whose exponent is written. -/
theorem ofUnits_single {s : String} {q : Rat} (hq : q ≠ 0) (hone : q ≠ 1) :
    ofUnits (.ofList [(s, q)]) = ofFactor (s, q) := by
  have h : (Units.ofList [(s, q)]).toList = [(s, q)] :=
    toList_ofList (List.pairwise_singleton _ _) (by simpa using hq)
  simp [ofUnits, h, hone, ofFactor]

/-- Factors that are not exactly one are written as a list. -/
theorem ofUnits_list {fs : List (String × Rat)} (several : fs.length ≠ 1)
    (ascending : fs.Pairwise fun a b => a.1 < b.1) (nonzero : ∀ f ∈ fs, f.2 ≠ 0) :
    ofUnits (.ofList fs) = .arr (fs.map ofFactor) := by
  have hfs := toList_ofList ascending nonzero
  obtain ⟨s, h, -⟩ | ⟨f, h, -⟩ | ⟨-, h⟩ := ofUnits_eq (.ofList fs)
  · rw [hfs] at h
    exact absurd (by rw [h]; rfl) several
  · rw [hfs] at h
    exact absurd (by rw [h]; rfl) several
  · rw [h, hfs]

/-- Symbols with shortest integers are written for some factors. -/
theorem exists_factors {ds : List (String × List Int)} (h : ∀ d ∈ ds, Shortest d.2) :
    ∃ fs : List (String × Rat),
      (∀ f ∈ fs, f.2 ≠ 0) ∧ ds = fs.map fun f => (f.1, exponentIntegers f.2) := by
  induction ds with
  | nil => exact ⟨[], by simp, rfl⟩
  | cons d ds ih =>
    obtain ⟨q, hq, hzero⟩ := (h d (List.mem_cons_self ..)).exists_stands
    obtain ⟨fs, hfs, hds⟩ := ih fun d hd => h d (List.mem_cons_of_mem _ hd)
    have hd : d = (d.1, exponentIntegers q) :=
      Prod.ext rfl (hq.eq_exponentIntegers (h d (List.mem_cons_self ..)))
    refine ⟨(d.1, q) :: fs, List.forall_mem_cons.2 ⟨hzero, hfs⟩, ?_⟩
    rw [List.map_cons, ← hds, ← hd]

/-- **A canonical value is written as it was read.** -/
theorem Canonical.exists_units {raw : Json} (h : Canonical raw) :
    ∃ u, toUnits raw = .ok u ∧ ofUnits u = raw := by
  cases h with
  | symbol s => exact ⟨.ofSymbol s, rfl, rfl⟩
  | power s shortest written =>
    obtain ⟨q, hq, hzero⟩ := shortest.exists_stands
    have hns := hq.eq_exponentIntegers shortest
    have hone : q ≠ 1 := fun hone => written (by rw [hns, exponentIntegers, if_pos hone])
    refine ⟨_, toUnits_eq_ok_iff.2 ⟨_, .dimension s hq, rfl⟩, ?_⟩
    rw [ofUnits_single hzero hone, ofFactor_eq, hns]
  | product several ascending shortest =>
    obtain ⟨fs, hfs, rfl⟩ := exists_factors shortest
    have hdenotes : Denotes (.arr (fs.map ofFactor)) fs := by
      refine .product (List.forall₂_map_left_iff.2 (List.forall₂_same.2 fun f _ => ?_))
      exact ⟨_, ofFactor_eq f, stands_exponentIntegers f.2⟩
    rw [← map_ofFactor]
    refine ⟨_, toUnits_eq_ok_iff.2 ⟨fs, hdenotes, rfl⟩, ofUnits_list ?_ ?_ hfs⟩
    · rwa [List.length_map] at several
    · rwa [List.pairwise_map] at ascending

/-- **Writing and reading units.** Every unit comes back. What is accepted is what spells powers of
symbols, and it is read as their product. Whatever was accepted is written in the canonical form,
which is read as the same unit and written as it was; and the canonical values are exactly those
that are. -/
theorem units_codec :
    (∀ u, toUnits (ofUnits u) = .ok u) ∧
    (∀ raw u, toUnits raw = .ok u ↔ ∃ fs, Denotes raw fs ∧ u = .ofList fs) ∧
    (∀ raw u, toUnits raw = .ok u →
      Canonical (ofUnits u) ∧ ∃ v, toUnits (ofUnits u) = .ok v ∧ v = u ∧ ofUnits v = ofUnits u) ∧
    ∀ raw, Canonical raw ↔ ∃ u, toUnits raw = .ok u ∧ ofUnits u = raw := by
  refine ⟨toUnits_ofUnits, fun _ _ => toUnits_eq_ok_iff, fun raw u _ => ?_, fun raw => ?_⟩
  · exact ⟨canonical_ofUnits u, u, toUnits_ofUnits u, rfl, rfl⟩
  · refine ⟨Canonical.exists_units, ?_⟩
    rintro ⟨u, -, rfl⟩
    exact canonical_ofUnits u

/-- A symbol that is repeated, once with an unreduced exponent. -/
example : (toUnits (.arr [.arr [.str "m"], .arr [.str "m", .int 2, .int 4]])).map ofUnits =
    .ok (.arr [.str "m", .int 3, .int 2]) := by
  cbv

end Snapshot
end QuantityCalculus
