/-
# What steps keep

A step works on a state and ends with a value or a fault; the state is changed either way. Here
is what is needed to follow a property of the state through a step that is put together from
smaller ones.

**Main statements.** `Keeps.bind` and its companions, one for each way to put steps together;
`FailsWith.bind` and its companions, for the faults that steps end with, and `Safely.bind` for both
at once; `Agree.bind` and its companions, for two steps that end with the same, and
`AgreeUnless.bind` where the first of them may fail by itself; `Decides.bind` and `Decides.forM`:
when steps one behind the other succeed; `Atomic.of_succeeds` and its companions, for steps that
change nothing when they fail.
-/

namespace QuantityCalculus

variable {ε σ β γ : Type}

/-- What a step ends with, and the state that it leaves. -/
def outcome (step : ExceptT ε (StateM σ) β) (s : σ) : Except ε β × σ := step.run.run s

theorem outcome_get (s : σ) : outcome (get : ExceptT ε (StateM σ) σ) s = (.ok s, s) := rfl

theorem outcome_modify (f : σ → σ) (s : σ) :
    outcome (modify f : ExceptT ε (StateM σ) PUnit) s = (.ok ⟨⟩, f s) :=
  rfl

theorem outcome_bind (x : ExceptT ε (StateM σ) β) (f : β → ExceptT ε (StateM σ) γ) (s : σ) :
    outcome (x >>= f) s =
      match outcome x s with
      | (.ok b, s') => outcome (f b) s'
      | (.error e, s') => (.error e, s') := by
  show (match x s with
    | (r, s') => ExceptT.bindCont f r s') = _
  show _ = match x s with
    | (.ok b, s') => outcome (f b) s'
    | (.error e, s') => (.error e, s')
  cases x s with
  | mk r s' => cases r <;> rfl

/-- A step behind one that succeeds. -/
theorem outcome_bind_ok {x : ExceptT ε (StateM σ) β} {f : β → ExceptT ε (StateM σ) γ} {s s' : σ}
    {b : β} (h : outcome x s = (.ok b, s')) : outcome (x >>= f) s = outcome (f b) s' := by
  rw [outcome_bind, h]

/-- Behind a step that fails there is nothing. -/
theorem outcome_bind_error {x : ExceptT ε (StateM σ) β} {f : β → ExceptT ε (StateM σ) γ}
    {s s' : σ} {e : ε} (h : outcome x s = (.error e, s')) :
    outcome (x >>= f) s = (.error e, s') := by
  rw [outcome_bind, h]

/-- A fault comes from a step or from what is behind it. -/
theorem fault_of_bind {x : ExceptT ε (StateM σ) β} {f : β → ExceptT ε (StateM σ) γ} {s : σ}
    {fault : ε} (h : (outcome (x >>= f) s).1 = .error fault) :
    (outcome x s).1 = .error fault ∨
      ∃ b, (outcome x s).1 = .ok b ∧ (outcome (f b) (outcome x s).2).1 = .error fault := by
  cases hx : outcome x s with
  | mk r s' =>
    rw [outcome_bind, hx] at h
    cases r with
    | error e =>
      cases h
      exact .inl rfl
    | ok b => exact .inr ⟨b, rfl, h⟩

theorem ok_bind_iff {x : ExceptT ε (StateM σ) β} {f : β → ExceptT ε (StateM σ) γ} {s : σ} {d : γ} :
    (outcome (x >>= f) s).1 = .ok d ↔
      ∃ b, (outcome x s).1 = .ok b ∧ (outcome (f b) (outcome x s).2).1 = .ok d := by
  rw [outcome_bind]
  cases outcome x s with
  | mk r s' => cases r <;> simp

theorem outcome_discard {x : ExceptT ε (StateM σ) β} {s s' : σ} {b : β}
    (h : outcome x s = (.ok b, s')) : outcome (discard x) s = (.ok (), s') :=
  outcome_bind_ok h

/-- What is made of the value of a step does not matter for the state that it leaves. -/
theorem snd_outcome_bind_pure (x : ExceptT ε (StateM σ) β) (f : β → γ) (s : σ) :
    (outcome (x >>= fun b => pure (f b)) s).2 = (outcome x s).2 := by
  refine (congrArg Prod.snd (outcome_bind x _ s)).trans ?_
  cases outcome x s with
  | mk r s' => cases r <;> rfl

/-- What a step ends with does not matter for the state that it leaves. -/
theorem snd_outcome_discard (x : ExceptT ε (StateM σ) β) (s : σ) :
    (outcome (discard x) s).2 = (outcome x s).2 :=
  snd_outcome_bind_pure x (fun _ => ()) s

theorem outcome_tryCatch (x : ExceptT ε (StateM σ) β) (f : ε → ExceptT ε (StateM σ) β) (s : σ) :
    outcome (tryCatch x f) s =
      match outcome x s with
      | (.ok b, s') => (.ok b, s')
      | (.error e, s') => outcome (f e) s' := by
  show (match x s with
    | (r, s') => (match r with
      | .ok b => (pure (.ok b) : StateM σ (Except ε β))
      | .error e => f e) s') = _
  show _ = match x s with
    | ((.ok b : Except ε β), s') => ((.ok b : Except ε β), s')
    | (.error e, s') => outcome (f e) s'
  cases x s with
  | mk r s' => cases r <;> rfl

/-- A step keeps a property of the state, also when it fails, and a value that it ends with has
another property. -/
def Keeps (P : σ → Prop) (R : β → Prop) (step : ExceptT ε (StateM σ) β) : Prop :=
  ∀ s, P s → P (outcome step s).2 ∧ ∀ b, (outcome step s).1 = .ok b → R b

namespace Keeps

variable {P : σ → Prop} {R : β → Prop} {S : γ → Prop}

theorem imp {R' : β → Prop} {x : ExceptT ε (StateM σ) β} (h : Keeps P R x)
    (hr : ∀ b, R b → R' b) : Keeps P R' x :=
  fun s hs => ⟨(h s hs).1, fun b hb => hr b ((h s hs).2 b hb)⟩

protected theorem pure {b : β} (h : R b) : Keeps P R (pure b : ExceptT ε (StateM σ) β) := by
  intro s hs
  refine ⟨hs, fun b' hb => ?_⟩
  cases hb
  exact h

protected theorem throw (e : ε) : Keeps P R (throw e : ExceptT ε (StateM σ) β) :=
  fun _ hs => ⟨hs, fun _ hb => by cases hb⟩

protected theorem bind {x : ExceptT ε (StateM σ) β} {f : β → ExceptT ε (StateM σ) γ}
    (hx : Keeps P R x) (hf : ∀ b, R b → Keeps P S (f b)) : Keeps P S (x >>= f) := by
  intro s hs
  obtain ⟨hp, hr⟩ := hx s hs
  rw [outcome_bind]
  revert hp hr
  cases outcome x s with
  | mk r s' =>
    cases r with
    | ok b => exact fun hp hr => hf b (hr b rfl) s' hp
    | error e => exact fun hp _ => ⟨hp, fun _ hb => by cases hb⟩

/-- Behind a step that keeps a property there may be a step that keeps a weaker one. -/
theorem bind_imp {Q : σ → Prop} {x : ExceptT ε (StateM σ) β} {f : β → ExceptT ε (StateM σ) γ}
    (hx : Keeps P R x) (hPQ : ∀ s, P s → Q s) (hf : ∀ b, R b → Keeps Q S (f b)) {s : σ}
    (hs : P s) : Q (outcome (x >>= f) s).2 := by
  obtain ⟨hp, hr⟩ := hx s hs
  rw [outcome_bind]
  revert hp hr
  cases outcome x s with
  | mk r s' =>
    cases r with
    | ok b => exact fun hp hr => (hf b (hr b rfl) s' (hPQ s' hp)).1
    | error e => exact fun hp _ => hPQ s' hp

theorem throw_bind (e : ε) (f : β → ExceptT ε (StateM σ) γ) : Keeps P S (throw e >>= f) :=
  (Keeps.throw e).bind (R := fun _ => False) fun _ h => h.elim

protected theorem discard {x : ExceptT ε (StateM σ) β} (h : Keeps P R x) :
    Keeps P (fun _ => True) (discard x) :=
  h.bind fun _ _ => Keeps.pure trivial

protected theorem get : Keeps P P (get : ExceptT ε (StateM σ) σ) := by
  intro s hs
  refine ⟨hs, fun t ht => ?_⟩
  cases ht
  exact hs

protected theorem set {t : σ} (h : P t) :
    Keeps P (fun _ => True) (set t : ExceptT ε (StateM σ) PUnit) :=
  fun _ _ => ⟨h, fun _ _ => trivial⟩

protected theorem modify {f : σ → σ} (h : ∀ s, P s → P (f s)) :
    Keeps P (fun _ => True) (modify f : ExceptT ε (StateM σ) PUnit) :=
  fun s hs => ⟨h s hs, fun _ _ => trivial⟩

protected theorem modifyGet {f : σ → β × σ} (h : ∀ s, P s → P (f s).2) :
    Keeps P (fun _ => True) (modifyGet f : ExceptT ε (StateM σ) β) :=
  fun s hs => ⟨h s hs, fun _ _ => trivial⟩

/-- What does not touch the state. -/
theorem lift (x : Except ε β) :
    Keeps P (fun b => x = .ok b) (ExceptT.mk (pure x) : ExceptT ε (StateM σ) β) :=
  fun _ hs => ⟨hs, fun _ hb => hb⟩

theorem untouched (x : Except ε β) :
    Keeps P (fun _ => True) (ExceptT.mk (pure x) : ExceptT ε (StateM σ) β) :=
  (lift x).imp fun _ _ => trivial

protected theorem tryCatch {x : ExceptT ε (StateM σ) β} {f : ε → ExceptT ε (StateM σ) β}
    (hx : Keeps P R x) (hf : ∀ e, Keeps P R (f e)) : Keeps P R (tryCatch x f) := by
  intro s hs
  obtain ⟨hp, hr⟩ := hx s hs
  rw [outcome_tryCatch]
  revert hp hr
  cases outcome x s with
  | mk r s' =>
    cases r with
    | ok b => exact fun hp hr => ⟨hp, hr⟩
    | error e => exact fun hp _ => hf e s' hp

protected theorem forM {f : γ → ExceptT ε (StateM σ) PUnit} {cs : List γ}
    (h : ∀ c ∈ cs, Keeps P (fun _ => True) (f c)) : Keeps P (fun _ => True) (cs.forM f) := by
  induction cs with
  | nil => exact Keeps.pure trivial
  | cons c cs ih =>
    exact (h c (List.mem_cons_self ..)).bind fun _ _ =>
      ih fun d hd => h d (List.mem_cons_of_mem c hd)

protected theorem mapM {f : γ → ExceptT ε (StateM σ) β} {cs : List γ}
    (h : ∀ c ∈ cs, Keeps P (fun _ => True) (f c)) : Keeps P (fun _ => True) (cs.mapM f) := by
  induction cs with
  | nil => exact Keeps.pure trivial
  | cons c cs ih =>
    rw [List.mapM_cons]
    exact (h c (List.mem_cons_self ..)).bind fun _ _ =>
      (ih fun d hd => h d (List.mem_cons_of_mem c hd)).bind fun _ _ => Keeps.pure trivial

end Keeps

/-- From every state with a property a step fails only with faults of some sort. -/
def FailsWith (P : σ → Prop) (E : ε → Prop) (step : ExceptT ε (StateM σ) β) : Prop :=
  ∀ s, P s → ∀ e, (outcome step s).1 = .error e → E e

namespace FailsWith

variable {P : σ → Prop} {E : ε → Prop} {R : β → Prop}

protected theorem pure (b : β) : FailsWith P E (pure b : ExceptT ε (StateM σ) β) :=
  fun _ _ _ he => by cases he

protected theorem throw {e : ε} (h : E e) : FailsWith P E (throw e : ExceptT ε (StateM σ) β) := by
  intro s _ e' he
  cases he
  exact h

theorem throw_bind {e : ε} (h : E e) (f : β → ExceptT ε (StateM σ) γ) :
    FailsWith P E (throw e >>= f) := by
  intro s _ e' he
  cases he
  exact h

protected theorem modify (f : σ → σ) :
    FailsWith P E (modify f : ExceptT ε (StateM σ) PUnit) :=
  fun _ _ _ he => by cases he

protected theorem get : FailsWith P E (get : ExceptT ε (StateM σ) σ) := fun _ _ _ he => by cases he

/-- What does not touch the state. -/
theorem lift {x : Except ε β} (h : ∀ e, x = .error e → E e) :
    FailsWith P E (ExceptT.mk (pure x) : ExceptT ε (StateM σ) β) :=
  fun _ _ e he => h e he

/-- What does not touch the state and fails with other faults, which stand for some of the sort. -/
theorem lift_mapError {ε' : Type} {x : Except ε' β} {f : ε' → ε} (h : ∀ e, E (f e)) :
    FailsWith P E (ExceptT.mk (pure (x.mapError f)) : ExceptT ε (StateM σ) β) := by
  refine lift fun e he => ?_
  cases x with
  | error e' =>
    cases he
    exact h e'
  | ok b => cases he

protected theorem bind {x : ExceptT ε (StateM σ) β} {f : β → ExceptT ε (StateM σ) γ}
    (hx : FailsWith P E x) (hk : Keeps P R x) (hf : ∀ b, R b → FailsWith P E (f b)) :
    FailsWith P E (x >>= f) := by
  intro s hs e he
  rcases fault_of_bind he with he | ⟨b, hb, he⟩
  · exact hx s hs e he
  · exact hf b ((hk s hs).2 b hb) _ (hk s hs).1 e he

/-- Behind a step there may be one that fails so from every state. -/
theorem next {x : ExceptT ε (StateM σ) β} {f : β → ExceptT ε (StateM σ) γ}
    (hx : FailsWith P E x) (hf : ∀ b, FailsWith (fun _ => True) E (f b)) :
    FailsWith P E (x >>= f) := by
  intro s hs e he
  rcases fault_of_bind he with he | ⟨b, -, he⟩
  · exact hx s hs e he
  · exact hf b _ trivial e he

protected theorem discard {x : ExceptT ε (StateM σ) β} (h : FailsWith P E x) :
    FailsWith P E (discard x) :=
  h.next fun _ => FailsWith.pure _

protected theorem forM {f : γ → ExceptT ε (StateM σ) PUnit} {cs : List γ}
    (hk : ∀ c ∈ cs, Keeps P (fun _ => True) (f c)) (h : ∀ c ∈ cs, FailsWith P E (f c)) :
    FailsWith P E (cs.forM f) := by
  induction cs with
  | nil => exact FailsWith.pure _
  | cons c cs ih =>
    exact (h c (List.mem_cons_self ..)).bind (hk c (List.mem_cons_self ..)) fun _ _ =>
      ih (fun d hd => hk d (List.mem_cons_of_mem c hd)) fun d hd => h d (List.mem_cons_of_mem c hd)

end FailsWith

/-- A step keeps a property of the state, it fails only with faults of some sort, and a value that
it ends with has another property. -/
structure Safely (P : σ → Prop) (E : ε → Prop) (R : β → Prop) (step : ExceptT ε (StateM σ) β) :
    Prop where
  keeps : Keeps P R step
  fails : FailsWith P E step

namespace Safely

variable {P : σ → Prop} {E : ε → Prop} {R : β → Prop} {S : γ → Prop}

theorem imp {R' : β → Prop} {x : ExceptT ε (StateM σ) β} (h : Safely P E R x)
    (hr : ∀ b, R b → R' b) : Safely P E R' x :=
  ⟨h.keeps.imp hr, h.fails⟩

protected theorem pure {b : β} (h : R b) : Safely P E R (pure b : ExceptT ε (StateM σ) β) :=
  ⟨Keeps.pure h, FailsWith.pure b⟩

protected theorem throw {e : ε} (h : E e) : Safely P E R (throw e : ExceptT ε (StateM σ) β) :=
  ⟨Keeps.throw e, FailsWith.throw h⟩

theorem throw_bind {e : ε} (h : E e) (f : β → ExceptT ε (StateM σ) γ) :
    Safely P E S (throw e >>= f) :=
  ⟨Keeps.throw_bind e f, FailsWith.throw_bind h f⟩

protected theorem bind {x : ExceptT ε (StateM σ) β} {f : β → ExceptT ε (StateM σ) γ}
    (hx : Safely P E R x) (hf : ∀ b, R b → Safely P E S (f b)) : Safely P E S (x >>= f) where
  keeps := hx.keeps.bind fun b hb => (hf b hb).keeps
  fails := hx.fails.bind hx.keeps fun b hb => (hf b hb).fails

protected theorem discard {x : ExceptT ε (StateM σ) β} (h : Safely P E R x) :
    Safely P E (fun _ => True) (discard x) :=
  h.bind fun _ _ => Safely.pure trivial

protected theorem get : Safely P E P (get : ExceptT ε (StateM σ) σ) := ⟨Keeps.get, FailsWith.get⟩

protected theorem modify {f : σ → σ} (h : ∀ s, P s → P (f s)) :
    Safely P E (fun _ => True) (modify f : ExceptT ε (StateM σ) PUnit) :=
  ⟨Keeps.modify h, FailsWith.modify f⟩

protected theorem set {t : σ} (h : P t) :
    Safely P E (fun _ => True) (set t : ExceptT ε (StateM σ) PUnit) :=
  ⟨Keeps.set h, fun _ _ _ he => by cases he⟩

protected theorem modifyGet {f : σ → β × σ} (h : ∀ s, P s → P (f s).2) :
    Safely P E (fun _ => True) (modifyGet f : ExceptT ε (StateM σ) β) :=
  ⟨Keeps.modifyGet h, fun _ _ _ he => by cases he⟩

/-- What does not touch the state. -/
theorem lift {x : Except ε β} (h : ∀ e, x = .error e → E e) :
    Safely P E (fun b => x = .ok b) (ExceptT.mk (pure x) : ExceptT ε (StateM σ) β) :=
  ⟨Keeps.lift x, FailsWith.lift h⟩

theorem untouched {x : Except ε β} (h : ∀ e, x = .error e → E e) :
    Safely P E (fun _ => True) (ExceptT.mk (pure x) : ExceptT ε (StateM σ) β) :=
  (lift h).imp fun _ _ => trivial

/-- What is caught is of the sort, and what is done about it is as safe. -/
protected theorem tryCatch {F : ε → Prop} {x : ExceptT ε (StateM σ) β}
    {f : ε → ExceptT ε (StateM σ) β} (hx : Safely P F R x)
    (hf : ∀ e, F e → Safely P E R (f e)) : Safely P E R (tryCatch x f) := by
  constructor
  · intro s hs
    obtain ⟨hp, hr⟩ := hx.keeps s hs
    have he := hx.fails s hs
    rw [outcome_tryCatch]
    revert hp hr he
    cases outcome x s with
    | mk r s' =>
      cases r with
      | ok b => exact fun hp hr _ => ⟨hp, hr⟩
      | error e => exact fun hp _ he => (hf e (he e rfl)).keeps s' hp
  · intro s hs
    obtain ⟨hp, -⟩ := hx.keeps s hs
    have he := hx.fails s hs
    rw [outcome_tryCatch]
    revert hp he
    cases outcome x s with
    | mk r s' =>
      cases r with
      | ok b => exact fun _ _ _ h => by cases h
      | error e => exact fun hp he => (hf e (he e rfl)).fails s' hp

protected theorem forM {f : γ → ExceptT ε (StateM σ) PUnit} {cs : List γ}
    (h : ∀ c ∈ cs, Safely P E (fun _ => True) (f c)) :
    Safely P E (fun _ => True) (cs.forM f) where
  keeps := Keeps.forM fun c hc => (h c hc).keeps
  fails := FailsWith.forM (fun c hc => (h c hc).keeps) fun c hc => (h c hc).fails

end Safely

/-- A step that changes nothing when it fails. -/
def Atomic (step : ExceptT ε (StateM σ) β) : Prop :=
  ∀ s e, (outcome step s).1 = .error e → (outcome step s).2 = s

namespace Atomic

theorem of_succeeds {x : ExceptT ε (StateM σ) β} (h : ∀ s, ∃ b, (outcome x s).1 = .ok b) :
    Atomic x := by
  intro s e he
  obtain ⟨b, hb⟩ := h s
  cases hb.symm.trans he

theorem throw_bind (e : ε) (f : β → ExceptT ε (StateM σ) γ) : Atomic (throw e >>= f) :=
  fun _ _ _ => rfl

/-- Behind what does not touch the state. -/
theorem lift_bind {x : Except ε β} {f : β → ExceptT ε (StateM σ) γ} (hf : ∀ b, Atomic (f b)) :
    Atomic (ExceptT.mk (pure x) >>= f : ExceptT ε (StateM σ) γ) := by
  intro s e he
  cases x with
  | error _ => rfl
  | ok b => exact hf b s e he

end Atomic

/-- From related states two steps end with the same, and in related states again. -/
def Agree (R : σ → σ → Prop) (x y : ExceptT ε (StateM σ) β) : Prop :=
  ∀ s t, R s t → (outcome x s).1 = (outcome y t).1 ∧ R (outcome x s).2 (outcome y t).2

namespace Agree

variable {R : σ → σ → Prop}

protected theorem pure (b : β) : Agree R (pure b : ExceptT ε (StateM σ) β) (pure b) :=
  fun _ _ h => ⟨rfl, h⟩

protected theorem throw (e : ε) : Agree R (throw e : ExceptT ε (StateM σ) β) (throw e) :=
  fun _ _ h => ⟨rfl, h⟩

/-- What does not touch the state. -/
theorem lift (x : Except ε β) :
    Agree R (ExceptT.mk (pure x) : ExceptT ε (StateM σ) β) (ExceptT.mk (pure x)) :=
  fun _ _ h => ⟨rfl, h⟩

protected theorem modify {f g : σ → σ} (h : ∀ s t, R s t → R (f s) (g t)) :
    Agree R (modify f : ExceptT ε (StateM σ) PUnit) (modify g) :=
  fun s t hst => ⟨rfl, h s t hst⟩

/-- Behind two steps that agree on a value there may be steps that agree about such values. -/
theorem bind_of {Q : β → Prop} {x y : ExceptT ε (StateM σ) β} {f g : β → ExceptT ε (StateM σ) γ}
    (hxy : Agree R x y) (hx : Keeps (fun _ => True) Q x) (hfg : ∀ b, Q b → Agree R (f b) (g b)) :
    Agree R (x >>= f) (y >>= g) := by
  intro s t hst
  obtain ⟨hresult, hafter⟩ := hxy s t hst
  have hvalue := (hx s trivial).2
  rw [outcome_bind, outcome_bind]
  revert hresult hafter hvalue
  cases outcome x s with
  | mk r s' =>
    cases outcome y t with
    | mk r' t' =>
      intro hresult hafter hvalue
      cases hresult
      cases r with
      | ok b => exact hfg b (hvalue b rfl) s' t' hafter
      | error e => exact ⟨rfl, hafter⟩

protected theorem bind {x y : ExceptT ε (StateM σ) β} {f g : β → ExceptT ε (StateM σ) γ}
    (hxy : Agree R x y) (hfg : ∀ b, Agree R (f b) (g b)) : Agree R (x >>= f) (y >>= g) :=
  hxy.bind_of (Q := fun _ => True) (fun _ _ => ⟨trivial, fun _ _ => trivial⟩) fun b _ => hfg b

protected theorem tryCatch {x y : ExceptT ε (StateM σ) β} {f g : ε → ExceptT ε (StateM σ) β}
    (hxy : Agree R x y) (hfg : ∀ e, Agree R (f e) (g e)) :
    Agree R (tryCatch x f) (tryCatch y g) := by
  intro s t hst
  obtain ⟨hresult, hafter⟩ := hxy s t hst
  rw [outcome_tryCatch, outcome_tryCatch]
  revert hresult hafter
  cases outcome x s with
  | mk r s' =>
    cases outcome y t with
    | mk r' t' =>
      intro hresult hafter
      cases hresult
      cases r with
      | ok b => exact ⟨rfl, hafter⟩
      | error e => exact hfg e s' t' hafter

/-- Steps that look at the state agree if what they do about related states agrees. -/
theorem get_bind {f g : σ → ExceptT ε (StateM σ) β}
    (h : ∀ s t, R s t → (outcome (f s) s).1 = (outcome (g t) t).1 ∧
      R (outcome (f s) s).2 (outcome (g t) t).2) :
    Agree R (get >>= f) (get >>= g) := by
  intro s t hst
  rw [outcome_bind_ok (outcome_get s), outcome_bind_ok (outcome_get t)]
  exact h s t hst

end Agree

/-- From related states the first of two steps ends with a fault of some sort, or both end with the
same, and in related states again. -/
def AgreeUnless (E : ε → Prop) (R : σ → σ → Prop) (x y : ExceptT ε (StateM σ) β) : Prop :=
  ∀ s t, R s t → (∃ e, (outcome x s).1 = .error e ∧ E e) ∨
    (outcome x s).1 = (outcome y t).1 ∧ R (outcome x s).2 (outcome y t).2

namespace AgreeUnless

variable {E : ε → Prop} {R : σ → σ → Prop}

theorem of_agree {x y : ExceptT ε (StateM σ) β} (h : Agree R x y) : AgreeUnless E R x y :=
  fun s t hst => .inr (h s t hst)

protected theorem bind {x y : ExceptT ε (StateM σ) β} {f g : β → ExceptT ε (StateM σ) γ}
    (hxy : AgreeUnless E R x y) (hfg : ∀ b, AgreeUnless E R (f b) (g b)) :
    AgreeUnless E R (x >>= f) (y >>= g) := by
  intro s t hst
  have h := hxy s t hst
  rw [outcome_bind, outcome_bind]
  revert h
  cases outcome x s with
  | mk r s' =>
    cases outcome y t with
    | mk r' t' =>
      rintro (⟨e, hr, he⟩ | ⟨hresult, hafter⟩)
      · cases hr
        exact .inl ⟨e, rfl, he⟩
      · cases hresult
        cases r with
        | ok b => exact hfg b s' t' hafter
        | error e => exact .inr ⟨rfl, hafter⟩

end AgreeUnless

/-- From every state with a property a step keeps the property, and it succeeds under a condition
that no longer depends on the state. -/
def Decides (P : σ → Prop) (A : Prop) (step : ExceptT ε (StateM σ) PUnit) : Prop :=
  ∀ s, P s → P (outcome step s).2 ∧ ((outcome step s).1 = .ok ⟨⟩ ↔ A)

namespace Decides

variable {P : σ → Prop} {A B : Prop}

theorem keeps {x : ExceptT ε (StateM σ) PUnit} (h : Decides P A x) : Keeps P (fun _ => True) x :=
  fun s hs => ⟨(h s hs).1, fun _ _ => trivial⟩

/-- Two steps succeed if both conditions hold. -/
protected theorem bind {x y : ExceptT ε (StateM σ) PUnit} (hx : Decides P A x)
    (hy : Decides P B y) : Decides P (A ∧ B) (x >>= fun _ => y) := by
  intro s hs
  obtain ⟨hp, hok⟩ := hx s hs
  have hkeeps : Keeps P (fun _ => True) (x >>= fun _ => y) := hx.keeps.bind fun _ _ => hy.keeps
  refine ⟨(hkeeps s hs).1, ?_⟩
  rw [ok_bind_iff, ← hok, ← (hy _ hp).2]
  constructor
  · rintro ⟨_, hfirst, hsecond⟩
    exact ⟨hfirst, hsecond⟩
  · rintro ⟨hfirst, hsecond⟩
    exact ⟨_, hfirst, hsecond⟩

/-- The steps for the items of a list succeed if all their conditions hold. -/
protected theorem forM {δ : Type} {f : δ → ExceptT ε (StateM σ) PUnit} {raw : γ → δ}
    {Q : γ → Prop} {cs : List γ} (h : ∀ c ∈ cs, Decides P (Q c) (f (raw c))) :
    Decides P (∀ c ∈ cs, Q c) ((cs.map raw).forM f) := by
  induction cs with
  | nil => exact fun s hs => ⟨hs, fun _ => List.forall_mem_nil Q, fun _ => rfl⟩
  | cons c cs ih =>
    have hrest := ih fun d hd => h d (List.mem_cons_of_mem c hd)
    have hboth := (h c (List.mem_cons_self ..)).bind hrest
    intro s hs
    rw [List.forall_mem_cons]
    exact hboth s hs

end Decides
end QuantityCalculus
