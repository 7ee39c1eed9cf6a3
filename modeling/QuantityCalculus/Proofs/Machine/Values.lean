/-
# Evaluations are runs

What an evaluation computes is a run of the machine that it starts from: the same value or the same
fault, and the same machine afterwards. An evaluation counts down. It is given the calls that may
still be opened and perhaps the frames that the host has left, while a machine counts the calls
that are open and knows nothing of frames. The two counts agree all the way: under a limit, what
may still be opened is the limit less what is open; without one, the frames run out before the
count of calls does, since every call takes three of them.

**Main statements.** `Machine.runs_resolve`: there is a run for what an evaluation computes;
`Calculator.outcome_valueOf`: a calculator evaluates in its own machine.
-/

import QuantityCalculus.Proofs.Machine.Runs
import QuantityCalculus.Proofs.Steps

namespace QuantityCalculus

/-- So many frames, or more, lie between two rooms. -/
def Room.Within (frames : Nat) : Room → Room → Prop
  | none, none => True
  | some left, some less => less + frames ≤ left
  | _, _ => False

namespace Room

theorem Within.refl (room : Room) : Room.Within 0 room room := by
  cases room <;> simp [Within]

theorem Within.trans {m n : Nat} {a b c : Room} (h : Room.Within m a b) (h' : Room.Within n b c) :
    Room.Within n a c := by
  cases a <;> cases b <;> cases c <;> simp_all [Within]
  omega

theorem Within.isSome {n : Nat} {a b : Room} (h : Room.Within n a b) : b.isSome = a.isSome := by
  cases a <;> cases b <;> simp_all [Within]

theorem within_of_spend {room room' : Room} {frames : Nat} (h : room.spend frames = .ok room') :
    Room.Within frames room room' := by
  cases room with
  | none =>
    cases h
    trivial
  | some left =>
    unfold spend at h
    dsimp only at h
    split at h
    · cases h
      simp only [Within]
      omega
    · cases h

theorem spend_eq_error {room : Room} {frames : Nat} {fault : Fault}
    (h : room.spend frames = .error fault) : room.isSome = true ∧ fault = .stackExhausted := by
  cases room with
  | none => cases h
  | some left =>
    unfold spend at h
    dsimp only at h
    split at h
    · cases h
    · cases h
      exact ⟨rfl, rfl⟩

end Room

namespace Machine

variable {α : Type}

/-- What an evaluation only reads of a machine. -/
def context (M : Machine α) : Context α := ⟨M.outer, M.inputUnits, M.builtins, M.settings⟩

/-- What an evaluation may change of a machine. -/
def store (M : Machine α) : Store α := ⟨M.scope, M.functions⟩

/-- The machine with another store. -/
def after (M : Machine α) (st : Store α) : Machine α :=
  { M with scope := st.scope, functions := st.functions }

/-- From whatever store it starts, a step ends as the relation says. -/
def Follows {β : Type} (M : Machine α)
    (R : Machine α → Except Fault β → Machine α → List (CallEvent α) → Prop) (step : Eval α β) :
    Prop :=
  ∀ st, ∃ t, R (M.after st) (outcome step st).1 (M.after (outcome step st).2) t

/-- **A step behind another one,** which is not reached if the first one fails. -/
theorem Follows.bind {β γ : Type} {M : Machine α}
    {R : Machine α → Except Fault β → Machine α → List (CallEvent α) → Prop}
    {S : Except Fault γ → Machine α → List (CallEvent α) → Prop} {x : Eval α β}
    {k : β → Eval α γ} (hx : M.Follows R x) (st : Store α)
    (hfails : ∀ {fault M' t}, R (M.after st) (.error fault) M' t → ∃ t', S (.error fault) M' t')
    (hk : ∀ {b st' t}, R (M.after st) (.ok b) (M.after st') t →
      ∃ t', S (outcome (k b) st').1 (M.after (outcome (k b) st').2) t') :
    ∃ t, S (outcome (x >>= k) st).1 (M.after (outcome (x >>= k) st).2) t := by
  obtain ⟨t, ht⟩ := hx st
  rw [outcome_bind]
  revert ht
  cases outcome x st with
  | mk r st' =>
    cases r with
    | error fault => exact fun ht => hfails ht
    | ok b => exact fun ht => hk ht

variable [Scalar α] {host : Bool} {M : Machine α} {e a b : Expr}

/-- Calls can be followed in a room, and a room with an end belongs to a host that may fail. -/
structure Ready (host : Bool) (M : Machine α) (call : Caller α) (room : Room) : Prop where
  counted : room.isSome = true → host = true
  call : ∀ room' inner, Room.Within 0 room room' → Room.Within 3 room' inner → ∀ f xs,
    M.Follows (RunsCall host · f xs) (call room' f xs)

theorem Ready.within {call : Caller α} {room room' : Room} {n : Nat}
    (h : Ready host M call room) (hw : Room.Within n room room') : Ready host M call room' where
  counted hs := h.counted (hw.isSome ▸ hs)
  call room'' inner hw' := h.call room'' inner (hw.trans hw')

/-! ### Steps of nodes -/

/-- Frames are taken before the rest of a node. -/
theorem Follows.spend {call : Caller α} {room : Room} {frames : Nat}
    {k : Room → Eval α (Quantity α)} (hready : Ready host M call room)
    (hk : ∀ room', Room.Within frames room room' → Ready host M call room' →
      M.Follows (Runs host · e) (k room')) :
    M.Follows (Runs host · e) (ExceptT.mk (pure (room.spend frames)) >>= k) := by
  intro st
  cases hs : room.spend frames with
  | error fault =>
    obtain ⟨hroom, rfl⟩ := Room.spend_eq_error hs
    exact ⟨[], .exhausted (hready.counted hroom)⟩
  | ok room' =>
    have hw := Room.within_of_spend hs
    exact hk room' hw (hready.within hw) st

theorem Follows.single {f : Quantity α → Except CalcError (Quantity α)}
    {x : Eval α (Quantity α)} (hs : e.single? = some (a, f)) (ha : M.Follows (Runs host · a) x) :
    M.Follows (Runs host · e) (x >>= fun q => ExceptT.mk (pure ((f q).mapError .error))) :=
  fun st => ha.bind (S := Runs host (M.after st) e) st (fun hx => ⟨_, .single hs hx⟩)
    fun hx => ⟨_, .single hs hx⟩

theorem Follows.pair {f : Quantity α → Quantity α → Except CalcError (Quantity α)}
    {x y : Eval α (Quantity α)} (hp : e.pair? = some (a, b, f))
    (ha : M.Follows (Runs host · a) x) (hb : M.Follows (Runs host · b) y) :
    M.Follows (Runs host · e)
      (x >>= fun p => y >>= fun q => ExceptT.mk (pure ((f p q).mapError .error))) := by
  intro st
  refine ha.bind (S := Runs host (M.after st) e) st (fun hx => ⟨_, .pairFails hp hx⟩) ?_
  intro p st' t hx
  exact hb.bind (S := Runs host (M.after st) e) st' (fun hy => ⟨_, .pair hp hx hy⟩)
    fun hy => ⟨_, .pair hp hx hy⟩

/-- Both operands of a stripped conversion, and their ratio without a unit. -/
theorem Follows.converted {x y : Eval α (Quantity α)}
    (hp : e.pair? = some (a, b, Expr.converted (α := α)))
    (ha : M.Follows (Runs host · a) x) (hb : M.Follows (Runs host · b) y) :
    M.Follows (Runs host · e)
      (x >>= fun p => y >>= fun q =>
        ExceptT.mk (pure ((Quantity.ratio .conversion p q).mapError .error)) >>= fun ratio =>
          pure (.pure ratio)) := by
  have hratio (p q : Quantity α) :
      (ExceptT.mk (pure ((Quantity.ratio .conversion p q).mapError .error)) >>= fun ratio =>
        pure (.pure ratio) : Eval α (Quantity α)) =
        ExceptT.mk (pure ((Expr.converted p q).mapError .error)) := by
    unfold Expr.converted
    cases Quantity.ratio .conversion p q <;> rfl
  simp only [hratio]
  exact Follows.pair hp ha hb

theorem Follows.assign {n c : String} {x : Eval α (Quantity α)}
    (hb : M.Follows (Runs host · b) x) :
    M.Follows (Runs host · (.binary .assign (.name n) b c))
      (x >>= fun q => Expr.assign n q >>= fun _ => pure q) :=
  fun st => hb.bind (S := Runs host (M.after st) (.binary .assign (.name n) b c)) st
    (fun hx => ⟨_, .assign hx⟩) fun hx => ⟨_, .assign hx⟩

omit [Scalar α] in
/-- A definition is entered when nothing is wrong with it. -/
theorem define_eq (n : String) (parameters : List Expr) (body : Expr) :
    (Expr.define n parameters body : Eval α Unit) =
      ExceptT.mk (pure (Expr.definition n parameters body)) >>= fun f =>
        modify fun st => { st with functions := st.functions.define f } := by
  unfold Expr.define Expr.definition
  cases Expr.parameterNames parameters with
  | error cause => rfl
  | ok names =>
    let checked : Except Fault Unit :=
      (Function.check n names).mapError fun e => .error (.invalid e)
    show (ExceptT.mk (pure checked) >>= fun _ => _ : Eval α Unit) =
      ExceptT.mk (pure (checked >>= fun _ => .ok _)) >>= _
    cases checked <;> rfl

theorem follows_define (n c c' : String) (parameters : List Expr) (body : Expr) :
    M.Follows (Runs host · (.binary .assign (.call n parameters c) body c'))
      (Expr.define n parameters body >>= fun _ => pure Quantity.zero) := by
  intro st
  rw [define_eq]
  cases hd : Expr.definition n parameters body with
  | ok f => exact ⟨[], .define hd⟩
  | error fault => exact ⟨[], .defineFails hd⟩

/-- The second operand is needed if the first one does not decide. -/
theorem Follows.logical {op : BinaryOp} {stop : Bool} {c : String} {x y : Eval α (Quantity α)}
    (hop : op.decisive? = some stop) (ha : M.Follows (Runs host · a) x)
    (hb : M.Follows (Runs host · b) y) :
    M.Follows (Runs host · (.binary op a b c))
      (x >>= fun p => if p.isTrue = stop then pure (.ofBool stop)
        else y >>= fun q => pure (.ofBool q.isTrue)) := by
  intro st
  let S := Runs host (M.after st) (.binary op a b c)
  refine ha.bind (S := S) st (fun hx => ⟨_, .undecidedFails hop hx⟩) ?_
  intro p st' t hx
  by_cases hp : p.isTrue = stop
  · rw [if_pos hp]
    exact ⟨t, .decided hop hx hp⟩
  · rw [if_neg hp]
    exact hb.bind (S := S) st' (fun hy => ⟨_, .undecided hop hx hp hy⟩)
      fun hy => ⟨_, .undecided hop hx hp hy⟩

theorem Follows.conditional {c : String} {x y z : Eval α (Quantity α)}
    (he : M.Follows (Runs host · e) x) (ha : M.Follows (Runs host · a) y)
    (hb : M.Follows (Runs host · b) z) :
    M.Follows (Runs host · (.conditional e a b c)) (x >>= fun q => if q.isTrue then y else z) := by
  intro st
  refine he.bind (S := Runs host (M.after st) (.conditional e a b c)) st
    (fun hx => ⟨_, .conditionalFails hx⟩) ?_
  intro q st' t hx
  cases hq : q.isTrue with
  | true =>
    obtain ⟨t', hy⟩ := ha st'
    exact ⟨t ++ t', .conditional hx (by rwa [hq])⟩
  | false =>
    obtain ⟨t', hz⟩ := hb st'
    exact ⟨t ++ t', .conditional hx (by rwa [hq])⟩

theorem Follows.call {call : Caller α} {room : Room} {n c : String} {as : List Expr}
    {y : Eval α (List (Quantity α))}
    (hcall : ∀ f xs, M.Follows (RunsCall host · f xs) (call room f xs))
    (has : M.Follows (RunsAll host · as) y) :
    M.Follows (Runs host · (.call n as c)) (y >>= Expr.applyFunction M.context call room n) := by
  intro st
  refine has.bind (S := Runs host (M.after st) (.call n as c)) st (fun h => ⟨_, .callFails h⟩) ?_
  intro xs st' t hxs
  unfold Expr.applyFunction
  rw [outcome_bind_ok (outcome_get st')]
  cases hf : st'.functions.get? (n, xs.length) with
  | some f =>
    obtain ⟨t', hcalled⟩ := hcall f xs st'
    exact ⟨t ++ t', .call hxs hf hcalled⟩
  | none =>
    cases hb : Builtin.find? M.builtins n xs.length with
    | some b => 
      dsimp only [context]
      rw [hb]
      exact ⟨_, .builtin hxs hf hb⟩
    | none =>
      dsimp only [context]
      rw [hb]
      exact ⟨t, .unknownFunction hxs hf hb⟩

theorem Follows.cons {as : List Expr} {x : Eval α (Quantity α)} {y : Eval α (List (Quantity α))}
    (ha : M.Follows (Runs host · a) x) (has : M.Follows (RunsAll host · as) y) :
    M.Follows (RunsAll host · (a :: as)) (x >>= fun q => y >>= fun qs => pure (q :: qs)) := by
  intro st
  let S := RunsAll host (M.after st) (a :: as)
  refine ha.bind (S := S) st (fun hx => ⟨_, .consFails hx⟩) ?_
  intro q st' t hx
  exact has.bind (S := S) st' (fun hy => ⟨_, .cons hx hy⟩) fun hy => ⟨_, .cons hx hy⟩

/-! ### Whole evaluations -/

/-- **The value of an expression** is that of a run, if calls are. -/
theorem follows_value {call : Caller α} :
    (∀ room e, Ready host M call room →
      M.Follows (Runs host · e) (Expr.value M.context call room e)) ∧
    ∀ room es, Ready host M call room →
      M.Follows (RunsAll host · es) (Expr.values M.context call room es) := by
  refine Expr.value.mutual_induct M.context
    (fun room e => Ready host M call room →
      M.Follows (Runs host · e) (Expr.value M.context call room e))
    (fun room es => Ready host M call room →
      M.Follows (RunsAll host · es) (Expr.values M.context call room es))
    ?scalar ?name ?unit ?missingUnit ?strippedConversion ?unary ?assign ?define ?badTarget
    ?stripped ?logicalOr ?logicalAnd ?binary ?conditional ?call ?nil ?cons
  case scalar =>
    intro _ _ _ _
    rw [Expr.value]
    exact ⟨[], .scalar⟩
  case name =>
    intro _ _ _ _
    rw [Expr.value]
    exact ⟨[], .name⟩
  case unit =>
    intro _ _ q hq _ _
    rw [Expr.value, hq]
    exact ⟨[], .unit hq⟩
  case missingUnit =>
    intro _ _ hq _ _
    rw [Expr.value, hq]
    exact ⟨[], .unknownUnit hq⟩
  case strippedConversion =>
    intro room a b _ _ ha hb hready
    rw [Expr.value]
    exact .spend hready fun room' _ h => .converted rfl (ha room' h) (hb room' h)
  case unary =>
    intro room op a _ hne ha hready
    rw [Expr.value]
    · exact .spend hready fun room' _ h => .single (Expr.single?_unary hne) (ha room' h)
    · exact hne
  case assign =>
    intro room n b _ hb hready
    rw [Expr.value]
    exact .spend hready fun room' _ h => .assign (hb room' h)
  case define =>
    intro _ f parameters c body c' _
    rw [Expr.value]
    exact follows_define f c c' parameters body
  case badTarget =>
    intro _ left right _ hname hcall _ _
    rw [Expr.value]
    · exact ⟨[], .badTarget (fun n h => hname n h) fun f ps c h => hcall f ps c h⟩
    · exact hname
    · exact hcall
  case stripped =>
    intro room a _ b _ ha hb hready
    rw [Expr.value]
    exact .spend hready fun room' _ h => .converted rfl (ha room' h) (hb room' h)
  case logicalOr =>
    intro room a b _ ha hb hready
    rw [Expr.value]
    exact .spend hready fun room' _ h => .logical rfl (ha room' h) (hb room' h)
  case logicalAnd =>
    intro room a b _ ha hb hready
    rw [Expr.value]
    have hswap (x : Quantity α) (p q : Eval α (Quantity α)) :
        (if x.isTrue then p else q) = if x.isTrue = false then q else p := by
      cases x.isTrue <;> rfl
    simp only [hswap]
    exact .spend hready fun room' _ h => .logical rfl (ha room' h) (hb room' h)
  case binary =>
    intro room op a b c h₁ h₂ h₃ h₄ h₅ h₆ ha hb hready
    rw [Expr.value]
    · have hpair : (Expr.binary op a b c).pair? = some (a, b, Expr.applyBinary (α := α) op) :=
        Expr.pair?_binary h₃ h₄ h₅ h₆
      exact .spend hready fun room' _ h => .pair hpair (ha room' h) (hb room' h)
    all_goals assumption
  case conditional =>
    intro room c a b _ hc ha hb hready
    rw [Expr.value]
    exact .spend hready fun room' _ h => .conditional (hc room' h) (ha room' h) (hb room' h)
  case call =>
    intro room f as _ has hready
    rw [Expr.value]
    exact .spend hready fun room' hw h =>
      .call (hready.call room room' (.refl room) hw) (has room' h)
  case nil =>
    intro _ _ _
    rw [Expr.values]
    exact ⟨[], .nil⟩
  case cons =>
    intro room a as ha has hready
    rw [Expr.values]
    exact .cons (ha hready) (has hready)

/-- So many calls may still be opened: what the limit leaves, or more than the frames allow. -/
def Allows (M : Machine α) (room : Room) (left : Nat) : Prop :=
  match M.settings.callLimit? with
  | some (.atMost limit) => left = limit - M.depth
  | some .unlimited => ∃ frames, room = some frames ∧ frames < 3 * left + 3
  | none => False

section Allows

omit [Scalar α]

/-- When no call may be opened, and the frames for one are there, the limit has been reached. -/
theorem refusal?_of_allows_zero {room inner : Room} (h : M.Allows room 0)
    (hinner : Room.Within 3 room inner) (f : Function) :
    M.refusal? f = some (.error (.callDepth M.settings.maxCallDepth.plain f.name)) := by
  unfold Allows at h
  unfold refusal?
  cases hl : M.settings.callLimit? with
  | none => simp [hl] at h
  | some l =>
    cases l with
    | atMost limit =>
      have hdepth : ¬ M.depth < limit := by simp only [hl] at h; omega
      simp [hdepth]
    | unlimited =>
      simp only [hl] at h
      obtain ⟨frames, rfl, hlt⟩ := h
      cases inner with
      | none => exact hinner.elim
      | some less =>
        simp only [Room.Within] at hinner
        omega

theorem refusal?_of_allows_succ {room : Room} {left : Nat} (h : M.Allows room (left + 1))
    (f : Function) : M.refusal? f = none := by
  unfold Allows at h
  unfold refusal?
  cases hl : M.settings.callLimit? with
  | none => simp [hl] at h
  | some l =>
    cases l with
    | atMost limit =>
      have hdepth : M.depth < limit := by simp only [hl] at h; omega
      simp [hdepth]
    | unlimited => rfl

/-- Within a call there is one call less to open, and three frames less to open it with. -/
theorem Allows.enter {room inner : Room} {left : Nat} (h : M.Allows room (left + 1))
    (hinner : Room.Within 3 room inner) (f : Function) (xs : List (Quantity α)) :
    (M.enter f xs).Allows inner left := by
  have hdepth : (M.enter f xs).depth = M.depth + 1 := rfl
  have hsettings : (M.enter f xs).settings = M.settings := rfl
  unfold Allows at h ⊢
  rw [hsettings, hdepth]
  cases hl : M.settings.callLimit? with
  | none => simp [hl] at h
  | some l =>
    cases l with
    | atMost limit =>
      simp only [hl] at h ⊢
      omega
    | unlimited =>
      simp only [hl] at h ⊢
      obtain ⟨frames, rfl, hlt⟩ := h
      cases inner with
      | none => exact hinner.elim
      | some less =>
        simp only [Room.Within] at hinner
        exact ⟨less, rfl, by omega⟩

theorem Allows.within {room room' : Room} {left n : Nat} (h : M.Allows room left)
    (hw : Room.Within n room room') : M.Allows room' left := by
  unfold Allows at h ⊢
  cases hl : M.settings.callLimit? with
  | none => simp [hl] at h
  | some l =>
    cases l with
    | atMost limit => simpa only [hl] using h
    | unlimited =>
      simp only [hl] at h ⊢
      obtain ⟨frames, rfl, hlt⟩ := h
      cases room' with
      | none => exact hw.elim
      | some less =>
        simp only [Room.Within] at hw
        exact ⟨less, rfl, by omega⟩

end Allows

/-- **A call with some left** is the call of a machine that allows so many. -/
theorem follows_callWithin (left : Nat) {M : Machine α} {room inner : Room} (f : Function)
    (xs : List (Quantity α)) (hcounted : room.isSome = true → host = true)
    (hallows : M.Allows room left) (hinner : Room.Within 3 room inner) :
    M.Follows (RunsCall host · f xs) (Expr.callWithin left M.context room f xs) := by
  induction left generalizing M room inner f xs with
  | zero => exact fun st => ⟨_, .refused (refusal?_of_allows_zero hallows hinner f)⟩
  | succ left ih =>
    intro st
    have hnone : (M.after st).refusal? f = none := refusal?_of_allows_succ hallows f
    cases hs : room.spend 3 with
    | error fault =>
      obtain ⟨hroom, rfl⟩ := Room.spend_eq_error hs
      refine ⟨[], ?_⟩
      unfold Expr.callWithin
      rw [hs]
      exact .exhausted (hcounted hroom) hnone
    | ok within =>
      have hw := Room.within_of_spend hs
      let N := (M.after st).enter f xs
      have hready : Ready host N (Expr.callWithin left N.context) within :=
        { counted := fun h => hcounted (hw.isSome ▸ h)
          call := fun room' inner hroom' hinner g ys =>
            ih g ys (fun h => hcounted (hw.isSome ▸ hroom'.isSome ▸ h))
              ((hallows.enter hw f xs).within hroom') hinner }
      obtain ⟨t, ht⟩ := follows_value.1 within f.body hready N.store
      refine ⟨.entered f :: (t ++ [.left f]), ?_⟩
      unfold Expr.callWithin
      rw [hs]
      exact .entered hnone ht

/-- How a machine calls a defined function: so many calls may be opened as the limit leaves. -/
def caller (M : Machine α) (room : Room) : Caller α :=
  match M.settings.callLimit? with
  | some (.atMost limit) => Expr.callWithin (limit - M.depth) M.context
  | some .unlimited => Expr.callWithin (room.getD 0) M.context
  | none => fun _ _ _ => throw (.wrongType "the call depth must be a number")

/-- What an expression ends with in a machine, and the machine that it leaves. -/
def resolve (M : Machine α) (room : Room) (e : Expr) : Except Fault (Quantity α) × Machine α :=
  let ended := outcome (Expr.value M.context (M.caller room) room e) M.store
  (ended.1, M.after ended.2)

/-- **What an evaluation computes is a run.** Without a limit on calls the frames of the host have
to be counted, since nothing else would end a recursion. -/
theorem runs_resolve (M : Machine α) {room : Room} (hcounted : room.isSome = true → host = true)
    (hends : room.isSome = true ∨ M.settings.callLimit? ≠ some .unlimited) (e : Expr) :
    ∃ t, Runs host M e (M.resolve room e).1 (M.resolve room e).2 t := by
  have hready : Ready host M (M.caller room) room :=
    { counted := hcounted
      call := fun room' inner hroom' hinner f xs => by
        have hcounted' : room'.isSome = true → host = true := fun h =>
          hcounted (hroom'.isSome ▸ h)
        unfold caller
        cases hl : M.settings.callLimit? with
        | none => exact fun st => ⟨_, .refused (by simp [refusal?, after, hl])⟩
        | some l =>
          cases l with
          | atMost limit =>
            have hallows : M.Allows room' (limit - M.depth) := by simp [Allows, hl]
            exact follows_callWithin _ f xs hcounted' hallows hinner
          | unlimited =>
            have hroom : room.isSome = true := hends.resolve_right fun h => h hl
            obtain ⟨frames, rfl⟩ := Option.isSome_iff_exists.1 hroom
            have hallows : M.Allows (some frames) frames := by
              simp only [Allows, hl]
              exact ⟨frames, rfl, by omega⟩
            exact follows_callWithin _ f xs hcounted' (hallows.within hroom') hinner }
  exact follows_value.1 room e hready M.store

end Machine

/-- **The value of an expression in a calculator** is what the machine of the calculator ends
with; its variables and functions are those of the machine that is left. -/
theorem Calculator.outcome_valueOf [Scalar α] (c : Calculator α) (e : Expr) :
    outcome (valueOf e) c =
      ((c.machine.resolve c.room e).1,
        { c with
          globals := (c.machine.resolve c.room e).2.scope
          functions := (c.machine.resolve c.room e).2.functions }) := by
  have hcaller : c.machine.caller c.room = Expr.caller c.context c.room := by
    unfold Machine.caller Expr.caller
    rfl
  unfold Machine.resolve
  rw [hcaller]
  rfl

/-- The value of an expression in a calculator is that of a run of its machine, if the frames of the
host are counted. -/
theorem Calculator.exists_runs [Scalar α] (c : Calculator α) (hroom : c.room.isSome = true)
    (e : Expr) :
    ∃ t, Runs true c.machine e (c.machine.resolve c.room e).1 (c.machine.resolve c.room e).2 t :=
  c.machine.runs_resolve (fun _ => rfl) (.inl hroom) e

end QuantityCalculus
