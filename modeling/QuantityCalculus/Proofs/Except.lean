/-
# Computations that may fail

When a computation that may fail ends with a value, its parts have ended with values, too. When it
fails, one of its parts has failed.

**Main statements.** `bind_eq_ok_iff`, `mapError_eq_ok_iff`, `mapM_map_eq_ok` and `mem_of_mapM`;
`bind_eq_error`, `mapError_eq_error_iff` and `mapM_eq_error`; `FailsOnly.bind` and its companions,
for the sort of errors that a computation fails with.
-/

namespace QuantityCalculus
namespace Except

@[simp] theorem ok_bind {ε α β : Type} (a : α) (f : α → Except ε β) :
    ((Except.ok a : Except ε α) >>= f) = f a :=
  rfl

@[simp] theorem pure_eq_ok {ε α : Type} (a : α) : (pure a : Except ε α) = .ok a := rfl

theorem bind_eq_ok_iff {ε α β : Type} {x : Except ε α} {f : α → Except ε β} {b : β} :
    (x >>= f) = .ok b ↔ ∃ a, x = .ok a ∧ f a = .ok b := by
  cases x with
  | error e => simp [bind, Except.bind]
  | ok a => simp [bind, Except.bind]

/-- There is a value behind another one that cannot be spoiled. -/
theorem exists_bind_ok_iff {ε α β : Type} {x : Except ε α} {f : α → β} :
    (∃ b, (x >>= fun a => .ok (f a)) = .ok b) ↔ ∃ a, x = .ok a := by
  cases x with
  | error e => exact ⟨nofun, nofun⟩
  | ok a => exact ⟨fun _ => ⟨a, rfl⟩, fun _ => ⟨f a, rfl⟩⟩

/-- Behind a condition that would have ended it, a computation goes on. -/
theorem guard_eq_ok {ε β : Type} {p : Prop} [Decidable p] {e : ε} {f : Unit → Except ε β} {b : β}
    (h : (if p then throw e >>= f else f ()) = .ok b) : ¬ p ∧ f () = .ok b := by
  split at h
  · cases h
  · exact ⟨‹¬ p›, h⟩

instance decidableEq {ε α : Type} [DecidableEq ε] [DecidableEq α] : DecidableEq (Except ε α)
  | .ok a, .ok b => decidable_of_iff (a = b) (by simp)
  | .error a, .error b => decidable_of_iff (a = b) (by simp)
  | .ok _, .error _ => isFalse (by simp)
  | .error _, .ok _ => isFalse (by simp)

theorem mapError_eq_ok_iff {ε ε' β : Type} {f : ε → ε'} {x : Except ε β} {b : β} :
    x.mapError f = .ok b ↔ x = .ok b := by
  cases x with
  | error e => exact ⟨nofun, nofun⟩
  | ok a =>
    show Except.ok a = .ok b ↔ Except.ok a = .ok b
    rw [Except.ok.injEq, Except.ok.injEq]

/-- The items of a list come back from what they are mapped to. -/
theorem mapM_map_eq_ok {ε α β : Type} {f : β → Except ε α} {key : α → β} {as : List α}
    (h : ∀ a ∈ as, f (key a) = .ok a) : (as.map key).mapM f = .ok as := by
  induction as with
  | nil => rfl
  | cons a as ih =>
    rw [List.map_cons, List.mapM_cons, h a (List.mem_cons_self ..),
      ih fun b hb => h b (List.mem_cons_of_mem a hb)]
    rfl

/-- Each of the values of a list comes from one of the items. -/
theorem mem_of_mapM {ε α β : Type} {f : α → Except ε β} {as : List α} {bs : List β}
    (h : as.mapM f = .ok bs) : ∀ b ∈ bs, ∃ a ∈ as, f a = .ok b := by
  induction as generalizing bs with
  | nil =>
    cases h
    exact fun _ hb => by cases hb
  | cons a as ih =>
    rw [List.mapM_cons, bind_eq_ok_iff] at h
    obtain ⟨b, hb, h⟩ := h
    obtain ⟨bs', hbs, h⟩ := bind_eq_ok_iff.1 h
    cases h
    intro c hc
    rcases List.mem_cons.1 hc with rfl | hc
    · exact ⟨a, List.mem_cons_self .., hb⟩
    · obtain ⟨a', ha, hc⟩ := ih hbs c hc
      exact ⟨a', List.mem_cons_of_mem a ha, hc⟩

/-- The failure of a computation comes from its first part or from what is behind it. -/
theorem bind_eq_error {ε α β : Type} {x : Except ε α} {f : α → Except ε β} {e : ε}
    (h : (x >>= f) = .error e) : x = .error e ∨ ∃ a, x = .ok a ∧ f a = .error e := by
  cases x with
  | error e' =>
    cases h
    exact .inl rfl
  | ok a => exact .inr ⟨a, rfl, h⟩

theorem mapError_eq_error_iff {ε ε' β : Type} {f : ε → ε'} {x : Except ε β} {e : ε'} :
    x.mapError f = .error e ↔ ∃ cause, x = .error cause ∧ e = f cause := by
  cases x with
  | error cause =>
    show Except.error (f cause) = .error e ↔ _
    rw [Except.error.injEq]
    exact ⟨fun h => ⟨cause, rfl, h.symm⟩, fun ⟨_, h, he⟩ => by cases h; exact he.symm⟩
  | ok a => exact ⟨nofun, fun ⟨_, h, _⟩ => nomatch h⟩

/-- A list of items fails with the failure of one of them. -/
theorem mapM_eq_error {ε α β : Type} {f : α → Except ε β} {as : List α} {e : ε}
    (h : as.mapM f = .error e) : ∃ a ∈ as, f a = .error e := by
  induction as with
  | nil => cases h
  | cons a as ih =>
    rw [List.mapM_cons] at h
    rcases bind_eq_error h with h | ⟨b, -, h⟩
    · exact ⟨a, List.mem_cons_self .., h⟩
    · rcases bind_eq_error h with h | ⟨bs, -, h⟩
      · obtain ⟨a', ha, h⟩ := ih h
        exact ⟨a', List.mem_cons_of_mem a ha, h⟩
      · cases h

/-- A computation fails only with errors of some sort. -/
def FailsOnly {ε α : Type} (E : ε → Prop) (x : Except ε α) : Prop := ∀ e, x = .error e → E e

namespace FailsOnly

variable {ε ε' α β : Type} {E : ε → Prop}

theorem ok (a : α) : FailsOnly E (.ok a) := nofun

theorem error {e : ε} (h : E e) : FailsOnly E (.error e : Except ε α) := by
  rintro _ ⟨⟩
  exact h

protected theorem bind {x : Except ε α} {f : α → Except ε β} (hx : FailsOnly E x)
    (hf : ∀ a, FailsOnly E (f a)) : FailsOnly E (x >>= f) := by
  intro e h
  rcases bind_eq_error h with h | ⟨a, -, h⟩
  · exact hx e h
  · exact hf a e h

protected theorem map {x : Except ε α} {f : α → β} (hx : FailsOnly E x) :
    FailsOnly E (x.map f) := by
  cases x with
  | ok a => exact ok _
  | error e => exact error (hx e rfl)

protected theorem mapError {E' : ε' → Prop} {x : Except ε' α} {f : ε' → ε} (hx : FailsOnly E' x)
    (hf : ∀ e, E' e → E (f e)) : FailsOnly E (x.mapError f) := by
  intro e h
  obtain ⟨cause, hcause, rfl⟩ := mapError_eq_error_iff.1 h
  exact hf cause (hx cause hcause)

/-- All errors stand for some of the sort. -/
theorem mapError_of_forall {f : ε' → ε} (hf : ∀ e, E (f e)) (x : Except ε' α) :
    FailsOnly E (x.mapError f) := by
  intro e h
  obtain ⟨cause, -, rfl⟩ := mapError_eq_error_iff.1 h
  exact hf cause

/-- A computation that goes on only under a condition. -/
theorem guard {p : Prop} [Decidable p] {e : ε} {x : Except ε α} (he : E e) (hx : FailsOnly E x) :
    FailsOnly E (if p then x else .error e) := by
  split
  · exact hx
  · exact error he

end FailsOnly
end Except
end QuantityCalculus
