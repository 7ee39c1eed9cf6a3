/-
# Tables entry by entry

What holds of all entries of a table still holds when a key is bound or removed. A new key goes
to the end, and the values can be changed without the keys. Several keys that are bound one after
the other have their last values, and binding them once more changes nothing. Where it does not
matter what is bound in which order, it is enough that all bindings are of some kind.

**Main statements.** `forall_insert`, `forall_erase`, `entries_insert`, `entries_insert_of_mem`,
`get?_eq_some_iff` and `keys_isPrefix_insert`; `get?_insertAll` and `insertAll_insertAll`;
`Rebound.get?_eq_some`: what there is after bindings of a kind.
-/

import QuantityCalculus.Table

namespace QuantityCalculus
namespace Table

variable {κ β γ : Type} [DecidableEq κ] {P : κ × β → Prop}

theorem mem_bind {k : κ} {v : β} {es : List (κ × β)} {e : κ × β} (h : e ∈ bind k v es) :
    e = (k, v) ∨ e ∈ es := by
  induction es with
  | nil => exact .inl (List.mem_singleton.1 h)
  | cons d rest ih =>
    obtain ⟨a, b⟩ := d
    unfold bind at h
    split at h
    · rename_i hk
      subst hk
      exact (List.mem_cons.1 h).imp id (List.mem_cons_of_mem _)
    · rcases List.mem_cons.1 h with rfl | h
      · exact .inr (List.mem_cons_self ..)
      · exact (ih h).imp id (List.mem_cons_of_mem _)

/-- **Binding a key** keeps what holds of all entries, if it holds of the new one. -/
theorem forall_insert {t : Table κ β} {k : κ} {v : β} (h : ∀ e ∈ t.toList, P e) (hk : P (k, v)) :
    ∀ e ∈ (t.insert k v).toList, P e := by
  intro e he
  rcases mem_bind he with rfl | he
  · exact hk
  · exact h e he

/-- **Removing a key** keeps what holds of all entries. -/
theorem forall_erase {t : Table κ β} {k : κ} (h : ∀ e ∈ t.toList, P e) :
    ∀ e ∈ (t.erase k).toList, P e :=
  fun e he => h e (List.mem_filter.1 he).1

omit [DecidableEq κ] in
theorem forall_empty : ∀ e ∈ (empty : Table κ β).toList, P e := fun _ he => by cases he

theorem bind_of_not_mem {k : κ} {es : List (κ × β)} (h : k ∉ es.map Prod.fst) (v : β) :
    bind k v es = es ++ [(k, v)] := by
  induction es with
  | nil => rfl
  | cons e rest ih =>
    obtain ⟨a, b⟩ := e
    simp only [List.map_cons, List.mem_cons, not_or] at h
    rw [bind, if_neg (Ne.symm h.1), ih h.2, List.cons_append]

theorem contains_eq_false_iff {t : Table κ β} {k : κ} :
    t.contains k = false ↔ k ∉ t.keys := by
  have key : ∀ es : List (κ × β), (lookup k es).isSome = false ↔ k ∉ es.map Prod.fst := by
    intro es
    induction es with
    | nil => simp [lookup]
    | cons e rest ih =>
      obtain ⟨a, b⟩ := e
      by_cases h : a = k
      · simp [lookup, h]
      · rw [lookup, if_neg h, ih]
        simp [Ne.symm h]
  exact key t.entries

theorem mem_keys_iff {t : Table κ β} {k : κ} : k ∈ t.keys ↔ t.contains k = true := by
  rw [← Decidable.not_iff_not, ← contains_eq_false_iff, Bool.not_eq_true]

/-- A new key goes to the end. -/
theorem entries_insert {t : Table κ β} {k : κ} (h : k ∉ t.keys) (v : β) :
    (t.insert k v).entries = t.entries ++ [(k, v)] :=
  bind_of_not_mem h v

/-- **Binding a key** leaves the keys that are bound in front. -/
theorem keys_isPrefix_insert (t : Table κ β) (k : κ) (v : β) : t.keys <+: (t.insert k v).keys := by
  by_cases h : k ∈ t.keys
  · simp [keys_insert_of_mem h]
  · rw [keys_insert_of_not_mem h]
    exact List.prefix_append ..

theorem entries_erase (t : Table κ β) (k : κ) :
    (t.erase k).entries = t.entries.filter fun e => e.1 ≠ k := rfl

/-- Binding a key adds at most one entry. -/
theorem size_insert_le (t : Table κ β) (k : κ) (v : β) : (t.insert k v).size ≤ t.size + 1 := by
  have hsize (t : Table κ β) : t.size = t.keys.length := (List.length_map _).symm
  rw [hsize, hsize]
  by_cases h : k ∈ t.keys
  · rw [keys_insert_of_mem h]
    exact Nat.le_succ _
  · rw [keys_insert_of_not_mem h, List.length_append]
    exact Nat.le_refl _

/-- Erasing a key adds no entry. -/
theorem size_erase_le (t : Table κ β) (k : κ) : (t.erase k).size ≤ t.size := by
  unfold size
  rw [entries_erase]
  exact List.length_filter_le _ _

/-- Removing keys one after the other leaves the entries of the other keys. -/
theorem entries_eraseAll (ks : List κ) (t : Table κ β) :
    (ks.foldl erase t).entries = t.entries.filter fun e => e.1 ∉ ks := by
  induction ks generalizing t with
  | nil => exact (List.filter_eq_self.2 fun e _ => by simp).symm
  | cons k ks ih =>
    rw [List.foldl_cons, ih, entries_erase, List.filter_filter]
    refine List.filter_congr fun e _ => ?_
    simp only [List.mem_cons, not_or, Bool.decide_and, Bool.and_comm]

/-- **Look-up** finds the entry of a key, which is the only one. -/
theorem get?_eq_some_iff {t : Table κ β} {k : κ} {v : β} :
    t.get? k = some v ↔ (k, v) ∈ t.entries := by
  have key : ∀ es : List (κ × β), (es.map Prod.fst).Nodup →
      (lookup k es = some v ↔ (k, v) ∈ es) := by
    intro es
    induction es with
    | nil => simp [lookup]
    | cons e rest ih =>
      obtain ⟨a, b⟩ := e
      intro hd
      obtain ⟨ha, hr⟩ := List.nodup_cons.1 hd
      by_cases h : a = k
      · subst h
        have hne : (a, v) ∉ rest := fun hm => ha (List.mem_map.2 ⟨_, hm, rfl⟩)
        simp [lookup, hne, eq_comm]
      · simp [lookup, h, Ne.symm h, ih hr]
  exact key t.entries t.distinct

/-- Binding a bound key again changes its entry and no other. -/
theorem entries_insert_of_mem {t : Table κ β} {k : κ} (h : k ∈ t.keys) (v : β) :
    (t.insert k v).entries = t.entries.map fun e => if e.1 = k then (k, v) else e := by
  have key : ∀ es : List (κ × β), (es.map Prod.fst).Nodup → k ∈ es.map Prod.fst →
      bind k v es = es.map fun e => if e.1 = k then (k, v) else e := by
    intro es
    induction es with
    | nil => simp
    | cons e rest ih =>
      obtain ⟨a, b⟩ := e
      intro hd hm
      obtain ⟨ha, hr⟩ := List.nodup_cons.1 hd
      by_cases hk : a = k
      · subst hk
        have hrest : rest.map (fun e => if e.1 = a then (a, v) else e) = rest := by
          refine (List.map_congr_left fun e he => if_neg ?_).trans (List.map_id rest)
          rintro rfl
          exact ha (List.mem_map.2 ⟨e, he, rfl⟩)
        simp [bind, hrest]
      · have hm' : k ∈ rest.map Prod.fst := (List.mem_cons.1 hm).resolve_left (Ne.symm hk)
        simp [bind, hk, ih hr hm']
  exact key t.entries t.distinct h

omit [DecidableEq κ] in
theorem ext_entries {t t' : Table κ β} (h : t.entries = t'.entries) : t = t' := by
  cases t
  cases t'
  cases h
  rfl

/-- The same keys in the same order, with other values. -/
def mapValues (f : β → γ) (t : Table κ β) : Table κ γ :=
  ⟨t.entries.map fun e => (e.1, f e.2), by simpa [Function.comp_def] using t.distinct⟩

omit [DecidableEq κ] in
theorem keys_mapValues (f : β → γ) (t : Table κ β) : (t.mapValues f).keys = t.keys := by
  simp [keys, mapValues, Function.comp_def]

theorem get?_mapValues (f : β → γ) (t : Table κ β) (k : κ) :
    (t.mapValues f).get? k = (t.get? k).map f := by
  refine Option.ext fun v => ?_
  rw [get?_eq_some_iff, mapValues, List.mem_map, Option.map_eq_some_iff]
  constructor
  · rintro ⟨e, he, heq⟩
    cases heq
    exact ⟨e.2, get?_eq_some_iff.2 he, rfl⟩
  · rintro ⟨w, hw, rfl⟩
    exact ⟨(k, w), get?_eq_some_iff.1 hw, rfl⟩

theorem contains_mapValues (f : β → γ) (t : Table κ β) (k : κ) :
    (t.mapValues f).contains k = t.contains k := by
  rw [Bool.eq_iff_iff, ← Bool.not_eq_false, ← Bool.not_eq_false, contains_eq_false_iff,
    contains_eq_false_iff, keys_mapValues]

/-! ### Several keys -/

/-- The value of the last pair of a list with a key. -/
def last? (k : κ) (es : List (κ × β)) : Option β := lookup k es.reverse

/-- Binds the keys of the pairs of a list one after the other. -/
def insertAll (t : Table κ β) (es : List (κ × β)) : Table κ β :=
  es.foldl (fun t e => t.insert e.1 e.2) t

theorem lookup_append (k : κ) (es fs : List (κ × β)) :
    lookup k (es ++ fs) = (lookup k es).or (lookup k fs) := by
  induction es with
  | nil => rfl
  | cons e es ih =>
    rw [List.cons_append, lookup, lookup]
    split
    · rfl
    · exact ih

theorem last?_cons (k : κ) (e : κ × β) (es : List (κ × β)) :
    last? k (e :: es) = (last? k es).or (if e.1 = k then some e.2 else none) := by
  rw [last?, List.reverse_cons, lookup_append]
  rfl

theorem last?_isSome_iff {k : κ} {es : List (κ × β)} :
    (last? k es).isSome ↔ k ∈ es.map Prod.fst := by
  induction es with
  | nil => simp [last?, lookup]
  | cons e es ih =>
    rw [last?_cons, Option.isSome_or, Bool.or_eq_true, ih, List.map_cons, List.mem_cons, or_comm]
    refine or_congr_left ?_
    by_cases h : e.1 = k
    · simp [h]
    · simp [h, Ne.symm h]

theorem last?_eq_none {k : κ} {es : List (κ × β)} (h : k ∉ es.map Prod.fst) :
    last? k es = none := by
  rwa [← last?_isSome_iff, Bool.not_eq_true, Option.isSome_eq_false_iff,
    Option.isNone_iff_eq_none] at h

theorem mem_of_last? {k : κ} {v : β} {es : List (κ × β)} (h : last? k es = some v) :
    (k, v) ∈ es := by
  induction es with
  | nil => cases h
  | cons e es ih =>
    rw [last?_cons, Option.or_eq_some_iff] at h
    rcases h with h | ⟨-, h⟩
    · exact List.mem_cons_of_mem e (ih h)
    · split at h
      · rename_i hk
        subst hk
        cases h
        exact List.mem_cons_self ..
      · cases h

/-- **Binding several keys** gives each of them its last value, and no other key is touched. -/
theorem get?_insertAll (t : Table κ β) (es : List (κ × β)) (k : κ) :
    (t.insertAll es).get? k = (last? k es).or (t.get? k) := by
  induction es generalizing t with
  | nil => rfl
  | cons e es ih =>
    have hrest := ih (t.insert e.1 e.2)
    rw [get?_insert] at hrest
    rw [last?_cons, Option.or_assoc]
    refine hrest.trans ?_
    split <;> rfl

theorem keys_isPrefix_insertAll (t : Table κ β) (es : List (κ × β)) :
    t.keys <+: (t.insertAll es).keys := by
  induction es generalizing t with
  | nil => exact List.prefix_refl _
  | cons e es ih => exact (keys_isPrefix_insert t e.1 e.2).trans (ih _)

theorem keys_insertAll_of_subset {t : Table κ β} {es : List (κ × β)}
    (h : es.map Prod.fst ⊆ t.keys) : (t.insertAll es).keys = t.keys := by
  induction es generalizing t with
  | nil => rfl
  | cons e es ih =>
    rw [List.map_cons, List.cons_subset] at h
    have hkeys : (t.insert e.1 e.2).keys = t.keys := keys_insert_of_mem h.1 e.2
    have hrest : ((t.insert e.1 e.2).insertAll es).keys = (t.insert e.1 e.2).keys :=
      ih (hkeys ▸ h.2)
    exact hrest.trans hkeys

/-- Tables with the same keys in the same order and the same look-up are the same. -/
theorem ext_get? {t t' : Table κ β} (hkeys : t.keys = t'.keys)
    (hget : ∀ k, t.get? k = t'.get? k) : t = t' := by
  refine ext_entries (List.ext_getElem ?_ fun i h h' => ?_)
  · simpa [keys] using congrArg List.length hkeys
  · have hkey : (t.entries[i]).1 = (t'.entries[i]).1 := by
      have hi : i < t.keys.length := by simpa [keys] using h
      have := List.getElem_of_eq hkeys hi
      simpa [keys] using this
    have hvalue : t.get? (t.entries[i]).1 = some (t.entries[i]).2 :=
      get?_eq_some_iff.2 (List.getElem_mem h)
    have hvalue' : t'.get? (t'.entries[i]).1 = some (t'.entries[i]).2 :=
      get?_eq_some_iff.2 (List.getElem_mem h')
    rw [hget, hkey, hvalue'] at hvalue
    exact Prod.ext hkey (Option.some.inj hvalue).symm

/-- Binding a key to what it is bound to changes nothing. -/
theorem insert_of_get? {t : Table κ β} {k : κ} {v : β} (h : t.get? k = some v) :
    t.insert k v = t := by
  have hmem : k ∈ t.keys := by rw [mem_keys_iff, contains, h, Option.isSome_some]
  refine ext_get? (keys_insert_of_mem hmem v) fun k' => ?_
  rw [get?_insert]
  split
  · rename_i hk
    rw [← hk, h]
  · rfl

/-- **Binding the same keys once more** changes nothing, not even an order. -/
theorem insertAll_insertAll (t : Table κ β) (es : List (κ × β)) :
    (t.insertAll es).insertAll es = t.insertAll es := by
  have hget : ∀ k, ((t.insertAll es).insertAll es).get? k = (t.insertAll es).get? k := by
    intro k
    rw [get?_insertAll, get?_insertAll]
    cases last? k es <;> rfl
  refine ext_get? (keys_insertAll_of_subset fun k hk => ?_) hget
  have hlast := last?_isSome_iff.2 hk
  rw [mem_keys_iff, contains, get?_insertAll, Option.isSome_or, hlast, Bool.true_or]

/-! ### Logs of bindings -/

/-- The second table is what bindings of some kind, made one after the other, leave of the first. -/
def Rebound (P : κ × β → Prop) (t t' : Table κ β) : Prop :=
  ∃ es : List (κ × β), (∀ e ∈ es, P e) ∧ t' = t.insertAll es

namespace Rebound

variable {P Q : κ × β → Prop} {t t' t'' : Table κ β}

theorem refl : Rebound P t t := ⟨[], nofun, rfl⟩

theorem insert {k : κ} {v : β} (h : P (k, v)) : Rebound P t (t.insert k v) :=
  ⟨[(k, v)], by simpa using h, rfl⟩

theorem trans (h : Rebound P t t') (h' : Rebound P t' t'') : Rebound P t t'' := by
  obtain ⟨es, hes, rfl⟩ := h
  obtain ⟨fs, hfs, rfl⟩ := h'
  refine ⟨es ++ fs, fun e he => (List.mem_append.1 he).elim (hes e) (hfs e), ?_⟩
  rw [insertAll, insertAll, insertAll, List.foldl_append]

theorem mono (h : Rebound P t t') (hPQ : ∀ e, P e → Q e) : Rebound Q t t' := by
  obtain ⟨es, hes, rfl⟩ := h
  exact ⟨es, fun e he => hPQ e (hes e he), rfl⟩

/-- Without bindings of the kind the table is as it was. -/
theorem eq_of_none (h : Rebound P t t') (hP : ∀ e, ¬ P e) : t' = t := by
  obtain ⟨es, hes, rfl⟩ := h
  cases es with
  | nil => rfl
  | cons e es => exact (hP e (hes e (List.mem_cons_self ..))).elim

/-- What is found under a key was there before, or is a binding of the kind. -/
theorem get?_eq_some (h : Rebound P t t') {k : κ} {v : β} (hv : t'.get? k = some v) :
    t.get? k = some v ∨ P (k, v) := by
  obtain ⟨es, hes, rfl⟩ := h
  rw [get?_insertAll, Option.or_eq_some_iff] at hv
  rcases hv with hv | ⟨-, hv⟩
  · exact .inr (hes _ (mem_of_last? hv))
  · exact .inl hv

end Rebound
end Table
end QuantityCalculus
