/-
# Tables

A table binds each key once and remembers the order in which keys were first bound.
Binding a key again replaces its value and keeps its place; a key that was removed and is
bound again goes to the end.

**Main statements.**

* `get?_insert`, `get?_erase`, `get?_empty`: what the operations do to look-up.
* `keys_insert_of_mem`, `keys_insert_of_not_mem`: what binding does to the order of the keys.
-/

namespace QuantityCalculus

/-- Bindings of distinct keys in the order in which they were made. -/
structure Table (κ β : Type) where
  entries : List (κ × β)
  distinct : (entries.map Prod.fst).Nodup

namespace Table

variable {κ β : Type}

/-- The table without bindings. -/
def empty : Table κ β := ⟨[], List.nodup_nil⟩

instance : Inhabited (Table κ β) := ⟨empty⟩

/-- The bindings in order. -/
def toList (t : Table κ β) : List (κ × β) := t.entries

/-- The keys in order. -/
def keys (t : Table κ β) : List κ := t.entries.map Prod.fst

/-- The values in order. -/
def values (t : Table κ β) : List β := t.entries.map Prod.snd

/-- The number of bindings. -/
def size (t : Table κ β) : Nat := t.entries.length

variable [DecidableEq κ]

/-- The value of the first binding of a key in a list. -/
def lookup (k : κ) : List (κ × β) → Option β
  | [] => none
  | (k', v) :: rest => if k' = k then some v else lookup k rest

/-- Replaces the first binding of a key in a list, or adds one at the end. -/
def bind (k : κ) (v : β) : List (κ × β) → List (κ × β)
  | [] => [(k, v)]
  | (k', v') :: rest => if k' = k then (k', v) :: rest else (k', v') :: bind k v rest

theorem mem_keys_bind {k k' : κ} {v : β} {es : List (κ × β)} :
    k' ∈ (bind k v es).map Prod.fst ↔ k' = k ∨ k' ∈ es.map Prod.fst := by
  induction es with
  | nil => simp [bind]
  | cons e rest ih =>
    obtain ⟨a, b⟩ := e
    by_cases h : a = k
    · subst h; simp [bind]
    · simp only [bind, h, if_false, List.map_cons, List.mem_cons, ih]
      constructor
      · rintro (h | h | h)
        · exact Or.inr (Or.inl h)
        · exact Or.inl h
        · exact Or.inr (Or.inr h)
      · rintro (h | h | h)
        · exact Or.inr (Or.inl h)
        · exact Or.inl h
        · exact Or.inr (Or.inr h)

theorem nodup_bind {k : κ} {v : β} {es : List (κ × β)} (h : (es.map Prod.fst).Nodup) :
    ((bind k v es).map Prod.fst).Nodup := by
  induction es with
  | nil => simp [bind]
  | cons e rest ih =>
    obtain ⟨a, b⟩ := e
    obtain ⟨ha, hr⟩ := List.nodup_cons.1 h
    by_cases hk : a = k
    · subst hk
      simp only [bind, if_true, List.map_cons]
      exact List.nodup_cons.2 ⟨ha, hr⟩
    · simp only [bind, hk, if_false, List.map_cons]
      exact List.nodup_cons.2 ⟨fun hm => (mem_keys_bind.1 hm).elim hk ha, ih hr⟩

/-- The value bound to a key. -/
def get? (t : Table κ β) (k : κ) : Option β := lookup k t.entries

/-- Whether a key is bound. -/
def contains (t : Table κ β) (k : κ) : Bool := (t.get? k).isSome

/-- Binds a key: in its place if it is bound, else at the end. -/
def insert (t : Table κ β) (k : κ) (v : β) : Table κ β :=
  ⟨bind k v t.entries, nodup_bind t.distinct⟩

/-- Removes the binding of a key. -/
def erase (t : Table κ β) (k : κ) : Table κ β :=
  ⟨t.entries.filter fun e => e.1 ≠ k,
    (t.distinct.sublist (List.filter_sublist.map Prod.fst))⟩

/-- The table that binds the pairs of a list one after the other. -/
def ofList (es : List (κ × β)) : Table κ β := es.foldl (fun t e => t.insert e.1 e.2) empty

@[simp] theorem get?_empty (k : κ) : (empty : Table κ β).get? k = none := rfl

theorem lookup_bind (k k' : κ) (v : β) (es : List (κ × β)) :
    lookup k' (bind k v es) = if k = k' then some v else lookup k' es := by
  induction es with
  | nil => rfl
  | cons e rest ih =>
    obtain ⟨a, b⟩ := e
    by_cases h : a = k
    · subst h; by_cases h' : a = k' <;> simp [bind, lookup, h']
    · by_cases h' : a = k'
      · subst h'; simp [bind, lookup, h, Ne.symm h]
      · simpa [bind, lookup, h, h'] using ih

/-- **Binding a key** changes the look-up of that key only. -/
@[simp] theorem get?_insert (t : Table κ β) (k k' : κ) (v : β) :
    (t.insert k v).get? k' = if k = k' then some v else t.get? k' :=
  lookup_bind k k' v t.entries

theorem lookup_filter_ne (k k' : κ) (es : List (κ × β)) :
    lookup k' (es.filter fun e => e.1 ≠ k) = if k = k' then none else lookup k' es := by
  induction es with
  | nil => simp [lookup]
  | cons e rest ih =>
    obtain ⟨a, b⟩ := e
    by_cases ha : a = k
    · subst ha
      by_cases hk : a = k' <;> simp_all [lookup]
    · by_cases hk : a = k'
      · subst hk; simp [lookup, ha, Ne.symm ha]
      · simpa [lookup, ha, hk] using ih

/-- **Removing a key** changes the look-up of that key only. -/
@[simp] theorem get?_erase (t : Table κ β) (k k' : κ) :
    (t.erase k).get? k' = if k = k' then none else t.get? k' :=
  lookup_filter_ne k k' t.entries

theorem keys_bind_of_mem {k : κ} {es : List (κ × β)} (h : k ∈ es.map Prod.fst) (v : β) :
    (bind k v es).map Prod.fst = es.map Prod.fst := by
  induction es with
  | nil => simp at h
  | cons e rest ih =>
    obtain ⟨a, b⟩ := e
    by_cases ha : a = k
    · simp [bind, ha]
    · have : k ∈ rest.map Prod.fst := by
        rcases List.mem_cons.1 h with h | h
        · exact absurd h.symm ha
        · exact h
      simp [bind, ha, ih this]

/-- **Binding a bound key** keeps the order of the keys. -/
theorem keys_insert_of_mem {t : Table κ β} {k : κ} (h : k ∈ t.keys) (v : β) :
    (t.insert k v).keys = t.keys :=
  keys_bind_of_mem h v

theorem keys_bind_of_not_mem {k : κ} {es : List (κ × β)} (h : k ∉ es.map Prod.fst) (v : β) :
    (bind k v es).map Prod.fst = es.map Prod.fst ++ [k] := by
  induction es with
  | nil => simp [bind]
  | cons e rest ih =>
    obtain ⟨a, b⟩ := e
    simp only [List.map_cons, List.mem_cons, not_or] at h
    simp [bind, Ne.symm h.1, ih h.2]

/-- **Binding a new key** adds it after the others. -/
theorem keys_insert_of_not_mem {t : Table κ β} {k : κ} (h : k ∉ t.keys) (v : β) :
    (t.insert k v).keys = t.keys ++ [k] :=
  keys_bind_of_not_mem h v

end Table
end QuantityCalculus
