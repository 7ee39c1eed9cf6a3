/-
# The readers fail as soon as they can

Every reader is put together from stages that fail as soon as they can, so it does so itself. There
is one lemma for each reader, by the rules for stages; what may stand inside it is read one level
deeper, so the readers of all depths follow by induction on the depth (`promptInner`).

A row is a loop, and one turn of it is a stage of its own (`Row.turn`). The loop needs fuel, but as
every turn takes tokens away the number of tokens is enough (`Row.loop_of_step`).

**Main statement.** `promptInner`: at every depth, the readers of what may stand inside an
expression fail as soon as they can.
-/

import QuantityCalculus.Proofs.Expr.Prompt

namespace QuantityCalculus
namespace Expr

variable {src src' : Source} {d d' : Nat} {t t' : Token} {ts ts' mid rest tail : List Token}

/-! ### Rows -/

/-- What halts goes on with no row. -/
theorem Halts.stops (h : Halts ts) (r : Row) : r.Stops src ts := by
  cases ts with
  | nil => exact r.stops_nil
  | cons t ts =>
    simp only [Halts, haltingKinds, kindOf_cons, List.mem_cons, List.not_mem_nil, or_false] at h
    rw [Row.stops_cons]
    cases r with
    | level l _ =>
      rcases h with h | h | h | h <;> cases l <;> simp [Row.goesOn, Level.operator?, h]
    | product | quotient | units =>
      rcases h with h | h | h | h <;> simp [Row.goesOn, factorOperator?, h]

theorem Row.Stops.follows {r : Row} (hs : r.Stops src ts) (hu : src'.isUnit = src.isUnit)
    (h : MayFollow ts ts') : r.Stops src' ts' := by
  rcases h with h | h
  · cases ts' with
    | nil => exact r.stops_nil
    | cons t' tail' =>
      obtain ⟨t, tail, rfl, ht⟩ := h.symm.exists_cons
      rw [stops_cons] at hs ⊢
      rw [r.goesOn_congr (kind_of_lexeme ht).symm (content_of_lexeme ht).symm hu, hs]
  · exact h.stops r

/-- One turn of the loop over a row: an operator, if it is written, and its right operand. -/
def Row.turn (r : Row) : Stage Unit (BinaryOp × Expr) := fun _ src d ts => do
  match ← r.step src (readers src d) ts with
  | some (op, e, rest) => return ((op, e), rest)
  | none => throw .nothing

/-- The loop over a row, from its first column and what was read of it. -/
def Row.loop (r : Row) : Stage (Nat × Expr) Expr := fun x src d ts =>
  groupLeft src (r.step src (readers src d)) x.1 ts.length x.2 ts

/-- A token goes on with a row that does not stop. -/
theorem Row.exists_cons_of_not_stops {r : Row} (h : ¬ r.Stops src ts) :
    ∃ t tail, ts = t :: tail ∧ r.goesOn src t = true := by
  cases ts with
  | nil => exact absurd r.stops_nil h
  | cons t tail => exact ⟨t, tail, rfl, by simpa [stops_cons] using h⟩

/-- What is read inside an expression takes tokens away. -/
theorem length_of_assignment {e : Expr} (h : (readers src d).assignment ts = .ok (e, rest)) :
    rest.length < ts.length := by
  obtain ⟨k, -, hr⟩ := (sound src d).assignment h
  exact hr.consumed.length_lt

theorem length_of_nextOperand {operator? : Token → Option BinaryOp} {operand : Reader}
    {op : BinaryOp} {e : Expr}
    (hoperand : ∀ {ts e rest}, operand ts = .ok (e, rest) → rest.length < ts.length)
    (h : nextOperand operator? operand ts = .ok (some (op, e, rest))) :
    rest.length < ts.length := by
  cases ts with
  | nil => cases h
  | cons t tail =>
    simp only [nextOperand] at h
    split at h
    · cases h
    · obtain ⟨⟨x, after⟩, hx, h⟩ := Except.bind_eq_ok_iff.1 h
      cases h
      exact Nat.lt_succ_of_lt (hoperand hx)

/-- A turn takes tokens away. -/
theorem Row.length_of_step {r : Row} {op : BinaryOp} {e : Expr}
    (h : r.step src (readers src d) ts = .ok (some (op, e, rest))) : rest.length < ts.length := by
  have hs := sound src d
  cases r with
  | units => exact (hs.units h).consumed.length_lt
  | product => exact (hs.nextFactor h).consumed.length_lt
  | quotient => exact length_of_nextOperand (fun hx => (hs.readsSigned hx).consumed.length_lt) h
  | level l tighter =>
    exact length_of_nextOperand (fun hx => (hs.levels tighter hx).consumed.length_lt) h

/-- A loop with enough fuel does not depend on it. -/
theorem Row.groupLeft_fuel {r : Row} {start n m : Nat} {left : Expr} (hn : ts.length ≤ n)
    (hm : ts.length ≤ m) :
    groupLeft src (r.step src (readers src d)) start n left ts =
      groupLeft src (r.step src (readers src d)) start m left ts := by
  induction n generalizing m ts left with
  | zero =>
    obtain rfl : ts = [] := List.length_eq_zero_iff.1 (Nat.le_zero.1 hn)
    rw [groupLeft_of_stops r.stops_nil, groupLeft_of_stops r.stops_nil]
  | succ n ih =>
    cases m with
    | zero =>
      obtain rfl : ts = [] := List.length_eq_zero_iff.1 (Nat.le_zero.1 hm)
      rw [groupLeft_of_stops r.stops_nil, groupLeft_of_stops r.stops_nil]
    | succ m =>
      cases hstep : r.step src (readers src d) ts with
      | error err => simp only [groupLeft, hstep]; rfl
      | ok next =>
        rcases next with _ | ⟨op, right, rest⟩
        · simp only [groupLeft, hstep]
          rfl
        · have hlt := length_of_step hstep
          rw [groupLeft_of_step hstep, groupLeft_of_step hstep]
          exact ih (by omega) (by omega)

theorem Row.loop_of_stops {r : Row} {x : Nat × Expr} (h : r.Stops src ts) :
    r.loop x src d ts = .ok (x.2, ts) :=
  groupLeft_of_stops h

/-- A turn and then the loop. -/
def Row.turns (r : Row) : Stage (Nat × Expr) Expr := fun x src d ts =>
  r.turn () src d ts >>= fun q =>
    r.loop (x.1, .binary q.1.1 x.2 q.1.2 (src.upTo x.1 q.2)) src d q.2

/-- Where a row goes on, its loop is a turn and then the loop. -/
theorem Row.loop_of_step {r : Row} {x : Nat × Expr} (h : ¬ r.Stops src ts) :
    r.loop x src d ts = r.turns x src d ts := by
  obtain ⟨t, tail, rfl, -⟩ := exists_cons_of_not_stops h
  cases hstep : r.step src (readers src d) (t :: tail) with
  | error err =>
    simp only [loop, turns, turn, List.length_cons, groupLeft, hstep]
    rfl
  | ok next =>
    rcases next with _ | ⟨op, right, rest⟩
    · exact absurd (stops_of_step hstep) h
    · have hlt := length_of_step hstep
      rw [List.length_cons] at hlt
      rw [loop, List.length_cons, groupLeft_of_step hstep,
        groupLeft_fuel (Nat.le_of_lt_succ hlt) (Nat.le_refl _)]
      simp only [turns, turn, hstep]
      rfl

theorem Row.length_of_turn {r : Row} {q : BinaryOp × Expr}
    (h : r.turn () src d ts = .ok (q, rest)) : rest.length < ts.length := by
  obtain ⟨next, hn, h⟩ := Except.bind_eq_ok_iff.1 h
  rcases next with _ | ⟨op, right, after⟩
  · cases h
  · cases h
    exact length_of_step hn

theorem Row.turns_of_stops {r : Row} {x : Nat × Expr} (h : r.Stops src ts) :
    r.turns x src d ts = .error .nothing := by
  simp only [turns, turn, step_of_stops _ h]
  rfl

theorem Row.completable_loop (r : Row) : Completable r.loop src d [] :=
  completable_nil fun x _ _ _ h => ⟨x.2, loop_of_stops (h.stops r)⟩

/-- **A loop fails as soon as it can,** if every turn of it does. -/
theorem Row.promptAt_loop {r : Row}
    (hturn : ∀ ts, ¬ r.Stops src ts → PromptAt r.turn src d ts) (ts : List Token) :
    PromptAt r.loop src d ts := by
  induction hn : ts.length using Nat.strongRecOn generalizing ts with
  | ind n ih =>
    by_cases hs : r.Stops src ts
    · refine PromptAt.done.follows fun x src' d' ts' ha hf => ⟨x.2, ?_⟩
      rw [loop_of_stops (hs.follows ha.1 hf)]
      exact .refl _
    · have hturns : PromptAt r.turns src d ts :=
        (hturn _ hs).join (G := r.loop) (fun x src d ts => ⟨(), fun q => _, .refl _⟩)
          (fun h => ih _ (hn ▸ length_of_turn h) _ rfl) r.completable_loop
      refine hturns.starts (fun x src' d' ts' ha hst => ⟨x, ?_⟩)
        (fun x => ⟨_, turns_of_stops r.stops_nil⟩) fun _ => r.completable_loop
      rw [loop_of_step fun h => hs (h.follows ha.1.symm (.inl hst.symm))]
      exact .refl _

/-- A turn leaves the tokens that are left behind its operand. -/
theorem Row.turn_endAlike {r : Row} {a : Except SyntaxError (Expr × List Token)} (x : Unit)
    (op : BinaryOp) (h : r.step src (readers src d) ts = a >>= fun q => .ok (some (op, q.1, q.2))) :
    EndAlike (r.turn x src d ts) a := by
  simp only [turn, h]
  cases a <;> rfl

/-- A row with its operators and operands of the next level. -/
theorem Row.promptAt_turn_of_operator {r : Row} (operator? : Token → Option BinaryOp)
    {R : Source → Readers → Reader}
    (hr : ∀ src inner, r.step src inner = nextOperand operator? (R src inner))
    (hop : ∀ {t t'}, t'.lexeme = t.lexeme → operator? t' = operator? t)
    (hR : ∀ ts, PromptAt (.of R) src d ts) (hs : ¬ r.Stops src ts) :
    PromptAt r.turn src d ts := by
  obtain ⟨t, tail, rfl, -⟩ := exists_cons_of_not_stops hs
  obtain ⟨op, ht⟩ : ∃ op, operator? t = some op := by
    rw [← Option.isSome_iff_exists, Option.isSome_iff_ne_none]
    intro ht
    have hstep : r.step src (readers src d) (t :: tail) = .ok none := by rw [hr, nextOperand, ht]
    exact hs (stops_of_step hstep)
  refine (hR tail).behind fun x src' d' t' tail' _ hlex => ⟨(), turn_endAlike x op ?_⟩
  simp only [hr, nextOperand, hop hlex, ht]
  rfl

/-- The first operand of a row and then its loop. -/
theorem Row.promptAt_row {r : Row} {R O : Source → Readers → Reader}
    (hR : ∀ src inner ts, R src inner ts = O src inner ts >>= fun q =>
      groupLeft src (r.step src inner) (columnOf ts) q.2.length q.1 q.2)
    (hO : PromptAt (.of O) src d ts) (hloop : ∀ ts, PromptAt r.loop src d ts) :
    PromptAt (.of R) src d ts :=
  hO.join (G := r.loop) (fun _ src d ts => ⟨(), fun q => (columnOf ts, q.1), by
    simp only [Stage.of, hR]
    exact .refl _⟩) (fun _ => hloop _) r.completable_loop

/-- An operator in front of a nested operand, or a plain operand. -/
theorem promptAt_leading {N : Readers → Reader} {P : Source → Readers → Reader}
    (hN : ∀ ts, PromptAt (.of fun _ => N) src d ts) (hP : ∀ ts, PromptAt (.of P) src d ts)
    (ts : List Token) :
    PromptAt (.of fun src inner => leading src (N inner) (P src inner)) src d ts := by
  cases hl : leadingOperator? (kindOf ts) with
  | none =>
    refine (hP ts).follows fun x src' d' ts' ha hf => ⟨(), ?_⟩
    have hl' : leadingOperator? (kindOf ts') = none := by
      rcases hf with h | h
      · rw [h.kindOf, hl]
      · simp only [Halts, haltingKinds, List.mem_cons, List.not_mem_nil, or_false] at h
        rcases h with h | h | h | h <;> rw [h] <;> rfl
    simp only [Stage.of, leading, hl']
    exact .refl _
  | some op =>
    cases ts with
    | nil => cases hl
    | cons t tail =>
      refine (hN tail).behind fun x src' d' t' tail' ha hlex => ⟨(), ?_⟩
      rw [kindOf_cons, ← kind_of_lexeme hlex] at hl
      simp only [Stage.of, leading, kindOf_cons, hl, List.tail_cons]
      exact endAlike_bind _

/-! ### Parentheses and calls -/

/-- A closing parenthesis behind what was read. -/
def Stage.close {β : Type} : Stage β β := fun b _ _ ts => do return (b, ← closing ts)

theorem Stage.close_cons {β : Type} {b : β} (h : t.kind = .rightParen) :
    Stage.close b src d (t :: ts) = .ok (b, ts) := by
  simp [close, closing_of_kind h]

theorem completable_close {β : Type} : Completable (Stage.close : Stage β β) src d [] := by
  refine completable_of_token (t := ⟨.rightParen, ")", 0, false⟩) (by decide) ?_
  exact fun x _ _ _ _ _ hlex _ => ⟨x, Stage.close_cons (kind_of_lexeme hlex)⟩

theorem promptAt_close {β : Type} (ts : List Token) :
    PromptAt (Stage.close : Stage β β) src d ts := by
  by_cases hk : kindOf ts = .rightParen
  · obtain ⟨p, tail, rfl, hp⟩ := exists_cons_of_kindOf hk (by decide)
    have hdone : PromptAt (Stage.done : Stage β β) src d tail := .done
    refine hdone.behind fun x src' d' t' tail' _ hlex => ⟨x, ?_⟩
    rw [Stage.close_cons ((kind_of_lexeme hlex).trans hp)]
    exact .refl _
  · refine .refuse completable_close fun x src' d' ts' _ hst => ⟨.unclosed (columnOf ts'), ?_, rfl⟩
    simp only [Stage.close, closing, hst.kindOf, if_neg hk]
    rfl

/-- What may stand inside an expression fails as soon as it can. -/
structure PromptInner (src : Source) (d : Nat) : Prop where
  assignment : ∀ ts, PromptAt (.of fun _ inner => inner.assignment) src d ts
  condition : ∀ ts, PromptAt (.of fun _ inner => inner.condition) src d ts
  signed : ∀ ts, PromptAt (.of fun _ inner => inner.signed) src d ts
  exponent : ∀ ts, PromptAt (.of fun _ inner => inner.exponent) src d ts
  power : ∀ ts, PromptAt (.of fun _ inner => inner.power) src d ts

theorem PromptInner.parenthesised (hi : PromptInner src d) (ts : List Token) :
    PromptAt (.of fun _ => Expr.parenthesised) src d ts :=
  (hi.assignment ts).join (fun _ _ _ _ => ⟨(), Prod.fst, .refl _⟩) (fun _ => promptAt_close _)
    completable_close

/-- Arguments with separators between them. -/
def Stage.allArguments : Stage Unit (List Expr) := fun _ src d ts =>
  arguments (readers src d) (ts.length + 1) ts

/-- The arguments behind one that was read. -/
def Stage.furtherArguments : Stage Expr (List Expr) := fun e src d ts =>
  if kindOf ts = .separator then do
    let (es, rest) ← allArguments () src d ts.tail
    return (e :: es, rest)
  else return ([e], ts)

/-- Arguments with enough fuel do not depend on it. -/
theorem arguments_fuel {n m : Nat} (hn : ts.length < n) (hm : ts.length < m) :
    arguments (readers src d) n ts = arguments (readers src d) m ts := by
  induction n generalizing m ts with
  | zero => omega
  | succ n ih =>
    obtain ⟨m, rfl⟩ : ∃ k, m = k + 1 := ⟨m - 1, by omega⟩
    cases h : (readers src d).assignment ts with
    | error err =>
      simp only [arguments, h]
      rfl
    | ok q =>
      have hlt := length_of_assignment h
      have htail : q.2.tail.length ≤ q.2.length := by simp
      have hmore : arguments (readers src d) n q.2.tail = arguments (readers src d) m q.2.tail :=
        ih (by omega) (by omega)
      simp only [arguments, h, Except.ok_bind, hmore]

theorem Stage.allArguments_eq (x : Unit) :
    allArguments x src d ts = (readers src d).assignment ts >>= fun q =>
      furtherArguments q.1 src d q.2 := by
  cases h : (readers src d).assignment ts with
  | error err =>
    simp only [allArguments, arguments, h]
    rfl
  | ok q =>
    have hlt := length_of_assignment h
    have htail : q.2.tail.length ≤ q.2.length := by simp
    have hmore : arguments (readers src d) ts.length q.2.tail =
        arguments (readers src d) (q.2.tail.length + 1) q.2.tail :=
      arguments_fuel (by omega) (by omega)
    simp only [allArguments, arguments, furtherArguments, h, Except.ok_bind, hmore]

theorem PromptInner.allArguments (hi : PromptInner src d) (ts : List Token) :
    PromptAt Stage.allArguments src d ts := by
  have helse : ∀ ⦃x src d ts⦄, kindOf ts ≠ .separator →
      ∃ b, Stage.furtherArguments x src d ts = .ok (b, ts) := fun x src d ts h =>
    ⟨[x], by simp [Stage.furtherArguments, h]⟩
  induction hn : ts.length using Nat.strongRecOn generalizing ts with
  | ind n ih =>
    refine (hi.assignment ts).join (G := Stage.furtherArguments)
      (fun x src d ts => ⟨(), Prod.fst, ?_⟩) (fun {x b mid} hx => ?_)
      (completable_ifKind (by decide) helse)
    · rw [Stage.allArguments_eq]
      exact .refl _
    · have hlt := length_of_assignment hx
      refine .ifKind (F := Stage.allArguments) (by decide) (fun t tail hmid => ?_) ?_ helse
      · subst hmid
        rw [List.length_cons] at hlt
        exact ih _ (by omega) tail rfl
      · intro x src d t tail ht
        simp only [Stage.furtherArguments, kindOf_cons, ht, if_true, List.tail_cons]
        exact ⟨(), endAlike_bind _⟩

/-- Arguments and a closing parenthesis. -/
def Stage.closedArguments : Stage Unit (List Expr) := fun _ src d ts =>
  allArguments () src d ts >>= fun q => close q.1 src d q.2

/-- A call behind its opening parenthesis, from its column and its function. -/
def Stage.callBehind : Stage (Nat × String) Expr := fun x src d ts =>
  if kindOf ts = .rightParen then
    .ok (.call x.2 [] (src.upTo x.1 ts.tail), ts.tail)
  else closedArguments () src d ts >>= fun q => .ok (.call x.2 q.1 (src.upTo x.1 q.2), q.2)

theorem PromptInner.callBehind (hi : PromptInner src d) (ts : List Token) :
    PromptAt Stage.callBehind src d ts := by
  by_cases hk : kindOf ts = .rightParen
  · obtain ⟨p, tail, rfl, hp⟩ := exists_cons_of_kindOf hk (by decide)
    have hdone : PromptAt (Stage.done : Stage Expr Expr) src d tail := .done
    refine hdone.behind fun x src' d' t' tail' _ hlex => ⟨.scalar "", ?_⟩
    simp only [Stage.callBehind, kindOf_cons, (kind_of_lexeme hlex).trans hp, if_true]
    rfl
  · have hargs : PromptAt Stage.closedArguments src d ts :=
      (hi.allArguments ts).join (fun _ _ _ _ => ⟨(), Prod.fst, .refl _⟩)
        (fun _ => promptAt_close _) completable_close
    refine hargs.starts (fun x src' d' ts' _ hst => ⟨(), ?_⟩) (fun x => ?_) fun _ => ?_
    · simp only [Stage.callBehind, hst.kindOf, if_neg hk]
      exact endAlike_bind _
    · cases h : (readers src d).assignment [] with
      | error err =>
        simp only [Stage.closedArguments, Stage.allArguments_eq, h]
        exact ⟨err, rfl⟩
      | ok q => exact absurd (length_of_assignment h) (Nat.not_lt_zero _)
    · -- where no argument starts, a closing parenthesis makes it a call without any
      refine completable_of_token (t := ⟨.rightParen, ")", 0, false⟩) (by decide) ?_
      intro x src' d' t' rest _ hlex _
      simp only [Stage.callBehind, kindOf_cons, kind_of_lexeme hlex, if_true]
      exact ⟨_, rfl⟩

/-! ### Operands and powers -/

/-- What a word stands for, from its column and its content. -/
def Stage.behindWord : Stage (Nat × String) Expr := fun x src d ts =>
  if kindOf ts = .leftParen then callOf src (readers src d) x.1 x.2 ts
  else if src.isUnit x.2 then .ok (.unit x.2, ts)
  else .ok (.name x.2, ts)

theorem callOf_cons {x : Nat × String} {p : Token} :
    callOf src (readers src d) x.1 x.2 (p :: ts) = Stage.callBehind x src d ts := by
  by_cases hq : kindOf ts = .rightParen
  · simp [callOf, Stage.callBehind, hq]
  · simp only [callOf, Stage.callBehind, hq, if_false, List.tail_cons, List.length_cons,
      Stage.closedArguments, Stage.close, Stage.allArguments]
    cases arguments (readers src d) (ts.length + 1) ts with
    | error err => rfl
    | ok q =>
      simp only [Except.ok_bind]
      cases closing q.2 <;> rfl

theorem PromptInner.behindWord (hi : PromptInner src d) (ts : List Token) :
    PromptAt Stage.behindWord src d ts := by
  refine .ifKind (F := Stage.callBehind) (k := .leftParen) (by decide)
    (fun t tail _ => hi.callBehind tail) ?_ ?_
  · intro x src d t tail ht
    refine ⟨x, ?_⟩
    simp only [Stage.behindWord, kindOf_cons, ht, if_true]
    rw [callOf_cons]
    exact .refl _
  · intro x src d ts h
    simp only [Stage.behindWord, if_neg h]
    split
    · exact ⟨_, rfl⟩
    · exact ⟨_, rfl⟩

/-- A turn that is a reader from the token that goes on with the row. -/
theorem Row.promptAt_turn_of_word {r : Row} {R : Source → Readers → Reader}
    (hR : PromptAt (.of R) src d ts)
    (hr : ∀ ⦃src' d' ts'⦄, Above src d src' d' → StartAlike ts ts' →
      r.step src' (readers src' d') ts' =
        R src' (readers src' d') ts' >>= fun q => .ok (some (.multiply, q.1, q.2)))
    (hnil : ∃ err, R src (readers src d) [] = .error err)
    (halone : ∃ t q, StartAlike ts [t] ∧ R src (readers src d) [t] = .ok q) :
    PromptAt r.turn src d ts := by
  refine hR.starts (fun x src' d' ts' ha hst => ⟨(), turn_endAlike x _ (hr ha hst)⟩)
    (fun _ => hnil) fun h => ?_
  -- a word alone is read, so nothing fails in front of it
  obtain ⟨t, q, hst, hq⟩ := halone
  obtain ⟨err, he⟩ := h (x := ()) (.refl src d) (.refl _) hst
  cases hq.symm.trans he

/-- A word alone is a power. -/
theorem power_word (src : Source) (inner : Readers) (u : Bool) (ht : t.kind = .word) :
    ∃ q, Expr.power src inner u [t] = .ok q := by
  cases hu : src.isUnit t.content with
  | true => exact ⟨(.unit t.content, []), by simp [Expr.power, elementary, ht, hu, factorials]⟩
  | false => exact ⟨(.name t.content, []), by simp [Expr.power, elementary, ht, hu, factorials]⟩

theorem power_nil {inner : Readers} {u : Bool} :
    Expr.power src inner u [] = .error (.unrecognized 0) := rfl

theorem PromptInner.promptAt_turn_units (hi : PromptInner src d) (hs : ¬ Row.units.Stops src ts) :
    PromptAt Row.units.turn src d ts := by
  obtain ⟨t, tail, rfl, hgo⟩ := Row.exists_cons_of_not_stops hs
  simp only [Row.goesOn, Bool.and_eq_true, beq_iff_eq] at hgo
  have hstep : ∀ ⦃src' d' ts'⦄, Above src d src' d' → StartAlike (t :: tail) ts' →
      Row.units.step src' (readers src' d') ts' =
        (readers src' d').power ts' >>= fun q => .ok (some (.multiply, q.1, q.2)) := by
    intro src' d' ts' ha hst
    obtain ⟨t', tail', rfl, hlex⟩ := hst.exists_cons
    simp only [Row.step, Expr.nextUnit, kind_of_lexeme hlex, content_of_lexeme hlex, ha.1, hgo,
      and_self, if_true]
    rfl
  cases d with
  | zero =>
    refine .of_tooDeep fun x => ?_
    simp only [Row.turn, hstep (.refl src 0) (.refl _)]
    rfl
  | succ d =>
    obtain ⟨q, hq⟩ := power_word src (readers src d) true hgo.1
    exact Row.promptAt_turn_of_word (hi.power _) hstep ⟨_, power_nil⟩
      ⟨t, q, startAlike_cons rfl, hq⟩

theorem PromptInner.unitWords (hi : PromptInner src d) (ts : List Token) :
    PromptAt Row.units.loop src d ts :=
  Row.promptAt_loop (fun _ hs => hi.promptAt_turn_units hs) ts

theorem elementary_of_kind {inner : Readers} {u : Bool} (h₁ : t.kind ≠ .leftParen)
    (h₂ : t.kind ≠ .scalar) (h₃ : t.kind ≠ .word) :
    elementary src inner u (t :: ts) = .error (.unrecognized t.column) := by
  simp only [elementary]

theorem completable_elementary (u : Bool) :
    Completable (.of fun src inner => elementary src inner u) src d [] := by
  refine completable_of_token (t := ⟨.scalar, "0", 0, false⟩) (by decide) ?_
  intro x src' d' t' rest _ hlex hr
  have hk : t'.kind = .scalar := kind_of_lexeme hlex
  cases u with
  | true =>
    refine ⟨.scalar t'.content, ?_⟩
    simp only [Stage.of, elementary, hk, if_true]
    exact Row.loop_of_stops (r := .units) (x := (t'.column, .scalar t'.content)) (hr.stops _)
  | false =>
    simp only [Stage.of, elementary, hk]
    exact ⟨_, rfl⟩

theorem PromptInner.elementary (hi : PromptInner src d) (u : Bool) (ts : List Token) :
    PromptAt (.of fun src inner => Expr.elementary src inner u) src d ts := by
  cases ts with
  | nil =>
    refine .refuse (completable_elementary u) fun x src' d' ts' _ hst => ?_
    obtain rfl : ts' = [] := by
      cases ts' with
      | nil => rfl
      | cons t' tail' => cases hst
    exact ⟨.unrecognized 0, rfl, rfl⟩
  | cons t rest =>
    by_cases h₁ : t.kind = .leftParen
    · refine (hi.parenthesised rest).behind fun x src' d' t' tail' _ hlex => ⟨(), ?_⟩
      simp only [Stage.of, Expr.elementary, (kind_of_lexeme hlex).trans h₁]
      exact .refl _
    by_cases h₂ : t.kind = .scalar
    · cases u with
      | true =>
        refine (hi.unitWords rest).behind fun x src' d' t' tail' _ hlex =>
          ⟨(t'.column, .scalar t'.content), ?_⟩
        simp only [Stage.of, Expr.elementary, (kind_of_lexeme hlex).trans h₂, if_true]
        exact .refl _
      | false =>
        have hdone : PromptAt (Stage.done : Stage Expr Expr) src d rest := .done
        refine hdone.behind fun x src' d' t' tail' _ hlex => ⟨.scalar t'.content, ?_⟩
        simp only [Stage.of, Expr.elementary, (kind_of_lexeme hlex).trans h₂]
        exact .refl _
    by_cases h₃ : t.kind = .word
    · refine (hi.behindWord rest).behind fun x src' d' t' tail' _ hlex =>
        ⟨(t'.column, t'.content), ?_⟩
      simp only [Stage.of, Expr.elementary, (kind_of_lexeme hlex).trans h₃]
      exact .refl _
    refine .refuse (completable_elementary u) fun x src' d' ts' _ hst => ?_
    obtain ⟨t', tail', rfl, hlex⟩ := hst.exists_cons
    refine ⟨.unrecognized t'.column, ?_, rfl⟩
    rw [← kind_of_lexeme hlex] at h₁ h₂ h₃
    exact elementary_of_kind h₁ h₂ h₃

/-- The exponent of what was read, if one follows, from its first column. -/
def Stage.exponentBehind : Stage (Nat × Expr) Expr := fun x src d ts =>
  if kindOf ts = .power then do
    let (e, rest) ← (readers src d).exponent ts.tail
    return (.binary .power x.2 e (src.upTo x.1 rest), rest)
  else return (x.2, ts)

/-- The factorial signs and the exponent behind an operand, from its first column. -/
def Stage.behindOperand : Stage (Nat × Expr) Expr := fun x src d ts =>
  exponentBehind (x.1, (factorials src x.1 x.2 ts).1) src d (factorials src x.1 x.2 ts).2

theorem Stage.exponentBehind_of_kind {x : Nat × Expr} (h : kindOf ts ≠ .power) :
    exponentBehind x src d ts = .ok (x.2, ts) := by
  simp [exponentBehind, h]

theorem Stage.behindOperand_of_kind {x : Nat × Expr} (h : kindOf ts ≠ .factorial) :
    behindOperand x src d ts = exponentBehind x src d ts := by
  rw [behindOperand, factorials_of_kind h]

theorem completable_behindOperand : Completable Stage.behindOperand src d [] := by
  refine completable_nil fun x src' d' rest hr => ⟨x.2, ?_⟩
  rw [Stage.behindOperand_of_kind (hr.kindOf_ne (by decide)),
    Stage.exponentBehind_of_kind (hr.kindOf_ne (by decide))]

theorem PromptInner.behindOperand (hi : PromptInner src d) (ts : List Token) :
    PromptAt Stage.behindOperand src d ts := by
  have hexp : ∀ ts, PromptAt Stage.exponentBehind src d ts := by
    refine fun ts => .ifKind (F := .of fun _ inner => inner.exponent) (by decide)
      (fun _ tail _ => hi.exponent tail) ?_ fun x _ _ _ h => ⟨x.2, Stage.exponentBehind_of_kind h⟩
    intro x src d t tail ht
    simp only [Stage.exponentBehind, kindOf_cons, ht, if_true, List.tail_cons]
    exact ⟨(), endAlike_bind _⟩
  have hplain : ∀ ts, kindOf ts ≠ .factorial → PromptAt Stage.behindOperand src d ts := by
    refine fun ts h => (hexp ts).follows fun x src' d' ts' _ hf => ⟨x, ?_⟩
    rw [Stage.behindOperand_of_kind (hf.kindOf_ne (by decide) h)]
    exact .refl _
  induction ts with
  | nil => exact hplain [] (by decide)
  | cons t tail ih =>
    by_cases ht : t.kind = .factorial
    · refine ih.behind fun x src' d' t' tail' _ hlex =>
        ⟨(x.1, .unary .factorial x.2 (src'.upTo x.1 tail')), ?_⟩
      simp only [Stage.behindOperand, factorials, (kind_of_lexeme hlex).trans ht, if_true]
      exact .refl _
    · exact hplain _ ht

theorem PromptInner.readsPower (hi : PromptInner src d) (u : Bool) (ts : List Token) :
    PromptAt (.of fun src inner => Expr.power src inner u) src d ts :=
  (hi.elementary u ts).join (G := Stage.behindOperand)
    (fun _ _ _ ts => ⟨(), fun q => (columnOf ts, q.1), .refl _⟩) (fun _ => hi.behindOperand _)
    completable_behindOperand

theorem PromptInner.readsSigned (hi : PromptInner src d) (ts : List Token) :
    PromptAt (.of Expr.signed) src d ts :=
  promptAt_leading hi.signed (hi.readsPower true) ts

theorem PromptInner.readsExponent (hi : PromptInner src d) (ts : List Token) :
    PromptAt (.of Expr.exponent) src d ts :=
  promptAt_leading hi.exponent (hi.readsPower false) ts

/-! ### Operations -/

theorem PromptInner.quotient (hi : PromptInner src d) (ts : List Token) :
    PromptAt (.of Expr.quotient) src d ts := by
  refine Row.promptAt_row (r := .quotient) (fun _ _ _ => rfl) (hi.readsSigned ts)
    (Row.promptAt_loop fun ts hs => ?_)
  refine Row.promptAt_turn_of_operator quotientOperator? (fun _ _ => rfl) ?_
    hi.readsSigned hs
  intro t t' h
  simp only [quotientOperator?, kind_of_lexeme h]

theorem PromptInner.promptAt_turn_product (hi : PromptInner src d)
    (hs : ¬ Row.product.Stops src ts) : PromptAt Row.product.turn src d ts := by
  obtain ⟨t, tail, rfl, hgo⟩ := Row.exists_cons_of_not_stops hs
  have hop' : ∀ {t' : Token}, t'.lexeme = t.lexeme → factorOperator? t' = factorOperator? t := by
    intro t' hlex
    rw [factorOperator?, factorOperator?, kind_of_lexeme hlex]
  cases hop : factorOperator? t with
  | some op =>
    refine (hi.quotient tail).behind fun x src' d' t' tail' _ hlex =>
      ⟨(), Row.turn_endAlike x op ?_⟩
    simp only [Row.step, nextFactor, hop' hlex, hop]
    rfl
  | none =>
    simp only [Row.goesOn, hop, Option.isSome_none, Bool.false_or, Bool.or_eq_true,
      Bool.and_eq_true, beq_iff_eq, bne_iff_ne] at hgo
    by_cases hp : t.kind = .leftParen
    · refine (hi.parenthesised tail).behind fun x src' d' t' tail' _ hlex =>
        ⟨(), Row.turn_endAlike x .multiply ?_⟩
      simp only [Row.step, nextFactor, hop' hlex, hop, kind_of_lexeme hlex, hp]
      rfl
    · have hw := hgo.resolve_right hp
      cases hu : src.isUnit t.content with
      | true =>
        obtain ⟨q, hq⟩ := power_word src (readers src d) true hw.1
        refine Row.promptAt_turn_of_word (hi.readsPower true _) (fun src' d' ts' ha hst => ?_)
          ⟨_, power_nil⟩ ⟨t, q, startAlike_cons rfl, hq⟩
        obtain ⟨t', tail', rfl, hlex⟩ := hst.exists_cons
        simp only [Row.step, nextFactor, hop' hlex, hop, kind_of_lexeme hlex,
          content_of_lexeme hlex, ha.1, hu, hw, ne_eq, not_false_eq_true, and_self, if_true]
        rfl
      | false =>
        have hdone : PromptAt (Stage.done : Stage Expr Expr) src d tail := .done
        refine hdone.behind fun x src' d' t' tail' ha hlex => ⟨.name t.content, ?_⟩
        simp only [Row.turn, Row.step, nextFactor, hop' hlex, hop, kind_of_lexeme hlex,
          content_of_lexeme hlex, ha.1, hu, hw, ne_eq, not_false_eq_true, and_self, if_true]
        rfl

theorem PromptInner.product (hi : PromptInner src d) (ts : List Token) :
    PromptAt (.of Expr.product) src d ts :=
  Row.promptAt_row (r := .product) (fun _ _ _ => rfl) (hi.quotient ts)
    (Row.promptAt_loop fun _ hs => hi.promptAt_turn_product hs)

theorem PromptInner.levels (hi : PromptInner src d) (ls : List Level) (ts : List Token) :
    PromptAt (.of fun src inner => levelsReader src inner ls) src d ts := by
  induction ls generalizing ts with
  | nil => exact hi.product ts
  | cons l tighter ih =>
    refine Row.promptAt_row (r := .level l tighter) (fun _ _ _ => rfl) (ih ts)
      (Row.promptAt_loop fun ts hs => ?_)
    refine Row.promptAt_turn_of_operator l.operator? (fun _ _ => rfl) ?_ ih hs
    intro t t' h
    simp only [Level.operator?, kind_of_lexeme h, content_of_lexeme h]

/-! ### Conditions and assignments -/

/-- The colon of a condition and the branch behind it, from the first column of the condition, what
it asks and its other branch. -/
def Stage.colonBehind : Stage (Nat × Expr × Expr) Expr := fun x src d ts =>
  if kindOf ts = .colon then do
    let (no, rest) ← (readers src d).condition ts.tail
    return (.conditional x.2.1 x.2.2 no (src.upTo x.1 rest), rest)
  else .error (.missingColon (columnOf ts))

/-- The branches of a condition behind its question mark. -/
def Stage.branches : Stage (Nat × Expr) Expr := fun x src d ts =>
  (readers src d).condition ts >>= fun q => colonBehind (x.1, x.2, q.1) src d q.2

/-- The branches of a condition, if they follow. -/
def Stage.questionBehind : Stage (Nat × Expr) Expr := fun x src d ts =>
  if kindOf ts = .question then branches x src d ts.tail else .ok (x.2, ts)

/-- What is assigned, if a sign of assignment follows. -/
def Stage.assignBehind : Stage (Nat × Expr) Expr := fun x src d ts =>
  if kindOf ts = .assign then do
    let (value, rest) ← (readers src d).assignment ts.tail
    return (.binary .assign x.2 value (src.upTo x.1 rest), rest)
  else return (x.2, ts)

theorem PromptInner.completable_condition (hi : PromptInner src (d + 1)) :
    Completable (.of fun _ inner => inner.condition) src (d + 1) [] := by
  have hnil : Stage.of (fun _ inner => inner.condition) () src (d + 1) [] =
      .error (.unrecognized 0) := rfl
  obtain ⟨w, stop, hw, -, hc, -⟩ := (hi.condition []).fails hnil (by decide)
  obtain ⟨rfl, -⟩ := List.append_eq_nil_iff.1 hw.symm
  exact hc

theorem PromptInner.completable_colonBehind (hi : PromptInner src (d + 1)) :
    Completable Stage.colonBehind src (d + 1) [] := by
  obtain ⟨c, hc, hp⟩ := hi.completable_condition
  have hcolon : Fills [⟨.colon, ":", 0, false⟩] := fun t ht => by
    rw [List.mem_singleton.1 ht]
    decide
  refine ⟨_, hcolon.append hc, fun x src' d' w' rest ha hs hr => ?_⟩
  obtain ⟨t', v, rfl, hlex, hv⟩ := SameLexemes.exists_cons hs
  obtain ⟨e, he⟩ := hp (x := ()) ha hv hr
  have he : (readers src' d').condition (v ++ rest) = .ok (e, rest) := he
  simp only [Stage.colonBehind, List.cons_append, kindOf_cons, kind_of_lexeme hlex, if_true,
    List.tail_cons, he]
  exact ⟨_, rfl⟩

theorem PromptInner.colonBehind (hi : PromptInner src (d + 1)) (ts : List Token) :
    PromptAt Stage.colonBehind src (d + 1) ts := by
  by_cases hk : kindOf ts = .colon
  · obtain ⟨t, tail, rfl, ht⟩ := exists_cons_of_kindOf hk (by decide)
    refine (hi.condition tail).behind fun x src' d' t' tail' _ hlex => ⟨(), ?_⟩
    simp only [Stage.colonBehind, kindOf_cons, (kind_of_lexeme hlex).trans ht, if_true,
      List.tail_cons]
    exact endAlike_bind _
  · refine .refuse hi.completable_colonBehind fun x src' d' ts' _ hst =>
      ⟨.missingColon (columnOf ts'), ?_, rfl⟩
    simp only [Stage.colonBehind, hst.kindOf, if_neg hk]

theorem PromptInner.branches (hi : PromptInner src d) (ts : List Token) :
    PromptAt Stage.branches src d ts := by
  cases d with
  -- below the last depth no branch is read, so no colon can be missing
  | zero => exact .of_tooDeep fun _ => rfl
  | succ d =>
    exact (hi.condition ts).join (fun x _ _ _ => ⟨(), fun q => (x.1, x.2, q.1), .refl _⟩)
      (fun _ => hi.colonBehind _) hi.completable_colonBehind

theorem PromptInner.readsCondition (hi : PromptInner src d) (ts : List Token) :
    PromptAt (.of Expr.condition) src d ts := by
  have helse : ∀ ⦃x src d ts⦄, kindOf ts ≠ .question →
      ∃ b, Stage.questionBehind x src d ts = .ok (b, ts) := fun x src d ts h =>
    ⟨x.2, by simp [Stage.questionBehind, h]⟩
  refine (hi.levels Level.all ts).join (G := Stage.questionBehind)
    (fun _ _ _ ts => ⟨(), fun q => (columnOf ts, q.1), .refl _⟩) (fun _ => ?_)
    (completable_ifKind (k := .question) (by decide) helse)
  refine .ifKind (F := Stage.branches) (by decide) (fun _ tail _ => hi.branches tail) ?_ helse
  intro x src d t tail ht
  simp only [Stage.questionBehind, kindOf_cons, ht, if_true, List.tail_cons]
  exact ⟨x, .refl _⟩

theorem PromptInner.readsAssignment (hi : PromptInner src d) (ts : List Token) :
    PromptAt (.of Expr.assignment) src d ts := by
  have helse : ∀ ⦃x src d ts⦄, kindOf ts ≠ .assign →
      ∃ b, Stage.assignBehind x src d ts = .ok (b, ts) := fun x src d ts h =>
    ⟨x.2, by simp [Stage.assignBehind, h]⟩
  refine (hi.readsCondition ts).join (G := Stage.assignBehind)
    (fun _ _ _ ts => ⟨(), fun q => (columnOf ts, q.1), .refl _⟩) (fun _ => ?_)
    (completable_ifKind (k := .assign) (by decide) helse)
  refine .ifKind (F := .of fun _ inner => inner.assignment) (by decide)
    (fun _ tail _ => hi.assignment tail) ?_ helse
  intro x src d t tail ht
  simp only [Stage.assignBehind, kindOf_cons, ht, if_true, List.tail_cons]
  exact ⟨(), endAlike_bind _⟩

/-- **What may stand inside an expression fails as soon as it can,** at every depth. -/
theorem promptInner (src : Source) (d : Nat) : PromptInner src d := by
  induction d with
  | zero =>
    constructor <;> exact fun ts => .of_tooDeep fun _ => rfl
  | succ d hi =>
    exact
      { assignment := fun ts => (hi.readsAssignment ts).deeper fun _ _ _ _ => rfl
        condition := fun ts => (hi.readsCondition ts).deeper fun _ _ _ _ => rfl
        signed := fun ts => (hi.readsSigned ts).deeper fun _ _ _ _ => rfl
        exponent := fun ts => (hi.readsExponent ts).deeper fun _ _ _ _ => rfl
        power := fun ts => (hi.readsPower true ts).deeper fun _ _ _ _ => rfl }

end Expr
end QuantityCalculus
