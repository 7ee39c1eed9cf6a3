/-
# Every text is answered

Whatever a calculator holds, evaluating a text ends with an outcome: calculation errors, texts that
are no expressions and nesting that is too deep for the host become failed outcomes, each with a
message that is also the latest diagnostic. The settings have to be sound: two different marks, the
decimal mark a text, a limit on calls that is a number, and an answer variable that is a name.

One thing escapes. `round` with a number of decimals may give a value beyond the largest double, and
then there is no outcome at all.

**Main statement.** `Calculator.answers_or_overflows`.
-/

import QuantityCalculus.Proofs.Calculator.Built
import QuantityCalculus.Proofs.Except
import QuantityCalculus.Proofs.Machine.Faults
import QuantityCalculus.Scalar.Real

namespace QuantityCalculus

/-! ### Sound settings -/

namespace Settings

variable {s : Settings}

/-- Settings for a calculator whose answer variable is a name. -/
structure Sound (s : Settings) : Prop where
  check : s.check = .ok ()
  decimal : ∃ mark, s.decimal = .str mark
  answerVariable : ∃ name, s.answerVariable = .str name

/-- A limit that is a number is a limit. -/
theorem callLimit_of_belowOne {b : Bool} (h : belowOne s.maxCallDepth = .ok b) :
    ∃ limit, s.callLimit? = some limit := by
  unfold callLimit?
  cases hm : s.maxCallDepth with
  | bool b => exact ⟨_, rfl⟩
  | int n => exact ⟨_, rfl⟩
  | float x =>
    dsimp only
    split
    · exact ⟨_, rfl⟩
    · exact ⟨_, rfl⟩
  | null | str _ | arr _ | obj _ =>
    rw [hm] at h
    cases h

/-- What the check finds: two marks of length one that differ, and a limit of at least one. -/
theorem parts_of_check (h : s.check = .ok ()) :
    length s.separator = .ok 1 ∧ length s.decimal = .ok 1 ∧ s.separator.same s.decimal = false ∧
      belowOne s.maxCallDepth = .ok false := by
  obtain ⟨m, hm, h⟩ := Except.bind_eq_ok_iff.1 h
  obtain ⟨hm1, h⟩ := Except.guard_eq_ok h
  obtain ⟨n, hn, h⟩ := Except.bind_eq_ok_iff.1 h
  obtain ⟨hn1, h⟩ := Except.guard_eq_ok h
  obtain ⟨hsame, h⟩ := Except.guard_eq_ok h
  obtain ⟨below, hbelow, h⟩ := Except.bind_eq_ok_iff.1 h
  obtain rfl : m = 1 := Decidable.not_not.1 hm1
  obtain rfl : n = 1 := Decidable.not_not.1 hn1
  obtain rfl : below = false := by
    cases below with
    | true => cases h
    | false => rfl
  exact ⟨hm, hn, Bool.not_eq_true _ ▸ hsame, hbelow⟩

/-- Sound settings have marks to read with and a limit that is a number. -/
theorem of_check (h : s.check = .ok ()) :
    (∃ marks, s.marks = .ok marks) ∧ ∃ limit, s.callLimit? = some limit := by
  obtain ⟨hm, hn, hsame, hbelow⟩ := parts_of_check h
  have hmarks : s.marks = .ok ⟨mark? s.separator, mark? s.decimal⟩ := by
    unfold marks marksOf
    simp only [hm, hn, hsame]
    rfl
  exact ⟨⟨_, hmarks⟩, callLimit_of_belowOne hbelow⟩

end Settings

namespace Calculator

variable {α : Type} [Scalar α]

/-- There is an outcome. If it is a failure, it is zero and has no result, and its message is the
latest diagnostic. -/
def Answered (ended : Except Fault (Outcome α) × Calculator α) : Prop :=
  ∃ o, ended.1 = .ok o ∧
    (o.succeeded = false → o.quantity = .zero ∧ o.base? = none ∧
      ∃ message, o.message? = some message ∧ ended.2.diagnostic? = some message)

/-- While an expression is evaluated, a value is rounded out of the range of doubles. -/
def RoundsOut (c : Calculator α) (e : Expr) : Prop :=
  ∃ M' t a digits, Runs true c.machine e (.error .overflow) M' t ∧
    .applied .roundPlaces [a, digits] ∈ t ∧ Builtin.RoundsOut a digits

/-- That happens in an expression or, behind one another, in the sides of a conversion. -/
def RoundsOutIn (c : Calculator α) (e : Expr) : Prop :=
  c.RoundsOut e ∨ ∃ value target, e.conversion? = some (value, target) ∧
    (c.RoundsOut value ∨ (outcome (valueOf value) c).2.RoundsOut target)

/-- An evaluation ends without an outcome, since a value is rounded out of the range. -/
def Overflows (c : Calculator α) (text : String) : Prop :=
  (outcome (evaluate text) c).1 = .error .overflow ∧ ∃ e, c.read text = .ok e ∧ c.RoundsOutIn e

/-! ### Values -/

/-- What the faults of values need: frames that are counted, and sound settings. -/
structure Ready (c : Calculator α) : Prop where
  room : c.room.isSome = true
  settings : c.settings.Sound

variable {c : Calculator α}

theorem Ready.valueOf (h : c.Ready) (e : Expr) : (outcome (valueOf e) c).2.Ready := by
  rw [outcome_valueOf]
  exact ⟨h.room, h.settings⟩

/-- The fault of a value is reported, or something is rounded out of the range. -/
theorem Ready.fault_valueOf (h : c.Ready) {e : Expr} {fault : Fault}
    (hfault : (outcome (Calculator.valueOf e) c).1 = .error fault) :
    fault.Reported ∨ fault = .overflow ∧ c.RoundsOut e := by
  rw [outcome_valueOf] at hfault
  obtain ⟨t, ht⟩ := c.exists_runs h.room e
  obtain ⟨limit, hlimit⟩ := (Settings.of_check h.settings.check).2
  obtain ⟨mark, hmark⟩ := h.settings.decimal
  have hdecimal : c.machine.settings.decimalText? = some mark := by
    simp [Settings.decimalText?, machine, hmark]
  refine (ht.explained hlimit hdecimal fault hfault).imp_right ?_
  rintro ⟨rfl, a, digits, hmem, hout⟩
  rw [hfault] at ht
  exact ⟨rfl, _, t, a, digits, ht, hmem, hout⟩

theorem Ready.fault_convert (h : c.Ready) {value target : Expr} {fault : Fault}
    (hfault : (outcome (convert value target) c).1 = .error fault) :
    fault.Reported ∨ fault = .overflow ∧
      (c.RoundsOut value ∨ (outcome (Calculator.valueOf value) c).2.RoundsOut target) := by
  rcases fault_of_bind hfault with hfault | ⟨x, -, hfault⟩
  · exact (h.fault_valueOf hfault).imp_right fun h => ⟨h.1, .inl h.2⟩
  rcases fault_of_bind hfault with hfault | ⟨y, -, hfault⟩
  · exact ((h.valueOf value).fault_valueOf hfault).imp_right fun h => ⟨h.1, .inr h.2⟩
  · rcases fault_of_bind hfault with hfault | ⟨q, -, hfault⟩
    · exact .inl (Reports.calculated _ _ hfault)
    · cases hfault

theorem Ready.fault_result (h : c.Ready) {e : Expr} {fault : Fault}
    (hfault : (outcome (result e) c).1 = .error fault) :
    fault.Reported ∨ fault = .overflow ∧ c.RoundsOut e := by
  rcases fault_of_bind hfault with hfault | ⟨base, -, hfault⟩
  · exact h.fault_valueOf hfault
  rcases fault_of_bind hfault with hfault | ⟨c', hc', hfault⟩
  · cases hfault
  · split at hfault
    · rcases fault_of_bind hfault with hfault | ⟨shown, -, hfault⟩
      · exact .inl (Reports.calculated ((c'.inOutputUnit? base).mapError .invalid) _ hfault)
      · cases hfault
    · cases hfault

/-! ### Outcomes -/

omit [Scalar α] in
theorem diagnostic?_postDiagnostic (c : Calculator α) (message : String) :
    (c.postDiagnostic message).diagnostic? = some message := by
  have hle : c.diagnostics.length + 1 - remembered ≤ c.diagnostics.length := by
    unfold remembered
    omega
  unfold postDiagnostic diagnostic?
  simp [List.drop_append_of_le_length hle]

theorem answered_fail (message : String) (c : Calculator α) :
    Answered (outcome (fail message : Step α (Outcome α)) c) :=
  ⟨.failure message, rfl, fun _ => ⟨rfl, rfl, message, rfl, diagnostic?_postDiagnostic c message⟩⟩

theorem answered_of_succeeded {ended : Except Fault (Outcome α) × Calculator α} {o : Outcome α}
    (h : ended.1 = .ok o) (ho : o.succeeded = true) : Answered ended :=
  ⟨o, h, fun hf => by rw [ho] at hf; cases hf⟩

/-- Steps that keep a calculator ready. -/
abbrev KeepsReady {β : Type} (R : β → Prop) (step : Step α β) : Prop := Keeps Ready R step

theorem keepsReady_valueOf (e : Expr) : KeepsReady (α := α) (fun _ => True) (valueOf e) :=
  fun _ hc => ⟨hc.valueOf e, fun _ _ => trivial⟩

theorem keepsReady_convert (value target : Expr) :
    KeepsReady (α := α) (fun o => o.succeeded = true) (convert value target) :=
  (keepsReady_valueOf value).bind fun _ _ => (keepsReady_valueOf target).bind fun _ _ =>
    (Keeps.untouched _).bind fun _ _ => Keeps.pure rfl

theorem keepsReady_result (e : Expr) :
    KeepsReady (α := α) (fun o => o.succeeded = true) (result e) := by
  refine (keepsReady_valueOf e).bind fun _ _ => Keeps.get.bind fun c _ => ?_
  split
  · exact (Keeps.untouched _).bind fun _ _ => Keeps.pure rfl
  · exact Keeps.pure rfl

/-- What a result or a conversion ends with is answered, if its faults are reported. -/
theorem answered_of_attempt {attempt : Step α (Outcome α)} {P : Prop} (h : c.Ready)
    (hattempt : KeepsReady (fun o => o.succeeded = true) attempt)
    (hfault : ∀ fault, (outcome attempt c).1 = .error fault → fault.Reported ∨
      fault = .overflow ∧ P) :
    let ended := outcome (tryCatch attempt fun fault =>
      match fault with
      | .error cause => fail cause.message
      | .stackExhausted => fail SyntaxError.tooDeep.message
      | other => throw other) c
    ended.2.Ready ∧ (Answered ended ∨ ended.1 = .error .overflow ∧ P) := by
  intro ended
  obtain ⟨hready, hsucceeded⟩ := hattempt c h
  have hfail (message : String) (c' : Calculator α) (h' : c'.Ready) :
      (outcome (fail message : Step α (Outcome α)) c').2.Ready :=
    ⟨h'.room, h'.settings⟩
  have hended : ended = _ := outcome_tryCatch _ _ _
  clear_value ended
  cases hr : outcome attempt c with
  | mk r c' =>
    rw [hr] at hended hready hsucceeded hfault
    cases r with
    | ok o =>
      subst hended
      exact ⟨hready, .inl (answered_of_succeeded rfl (hsucceeded o rfl))⟩
    | error fault =>
      rcases hfault fault rfl with hreported | ⟨rfl, hP⟩
      · cases fault with
        | error cause =>
          subst hended
          exact ⟨hfail _ _ hready, .inl (answered_fail _ _)⟩
        | stackExhausted =>
          subst hended
          exact ⟨hfail _ _ hready, .inl (answered_fail _ _)⟩
        | _ => exact hreported.elim
      · subst hended
        exact ⟨hready, .inr ⟨rfl, hP⟩⟩

theorem Ready.resolve (h : c.Ready) (e : Expr) :
    (outcome (Calculator.resolve e) c).2.Ready ∧
      (Answered (outcome (Calculator.resolve e) c) ∨
        (outcome (Calculator.resolve e) c).1 = .error .overflow ∧ c.RoundsOutIn e) := by
  unfold Calculator.resolve
  dsimp only
  split
  · rename_i value target _ hconversion
    refine answered_of_attempt h (keepsReady_convert value target) fun fault hfault => ?_
    exact (h.fault_convert hfault).imp_right fun ⟨hoverflow, hout⟩ =>
      ⟨hoverflow, .inr ⟨value, target, hconversion, hout⟩⟩
  · refine answered_of_attempt h (keepsReady_result e) fun fault hfault => ?_
    exact (h.fault_result hfault).imp_right fun ⟨hoverflow, hout⟩ => ⟨hoverflow, .inl hout⟩

omit [Scalar α] in
/-- Keeping the answer succeeds under a name. -/
theorem Ready.keepAnswer (h : c.Ready) (q : Quantity α) :
    (outcome (Calculator.keepAnswer q) c).1 = .ok () := by
  obtain ⟨name, hname⟩ := h.settings.answerVariable
  unfold Calculator.keepAnswer
  rw [outcome_bind_ok (outcome_get c)]
  rw [hname]
  rfl

/-- **Every text is answered,** but for values that are rounded out of the range of doubles. -/
theorem answers_or_overflows (c : Calculator α) (hroom : c.room.isSome = true)
    (hsettings : c.settings.Sound) (text : String) :
    Answered (outcome (evaluate text) c) ∨ c.Overflows text := by
  have h : c.Ready := ⟨hroom, hsettings⟩
  obtain ⟨⟨marks, hmarks⟩, -⟩ := Settings.of_check hsettings.check
  unfold Overflows evaluate
  rw [outcome_bind_ok (outcome_get c)]
  cases hread : Expr.read marks c.isUnit text with
  | error cause =>
    have hfault : c.read text = .error (.error (.text cause)) := by
      unfold read
      rw [hmarks]
      show Except.mapError _ (Expr.read marks c.isUnit text) = _
      rw [hread]
      rfl
    rw [hfault]
    exact .inl (answered_fail _ c)
  | ok e =>
    have he : c.read text = .ok e := read_eq_ok_iff.2 ⟨marks, hmarks, hread⟩
    rw [he]
    dsimp only
    obtain ⟨hready, hended⟩ := h.resolve e
    cases hr : outcome (Calculator.resolve e) c with
    | mk r c' =>
      rw [hr] at hready hended
      rcases hended with ⟨o, rfl, hfailed⟩ | ⟨rfl, hout⟩
      · rw [outcome_bind_ok hr]
        cases o with
        | failure message => exact .inl ⟨_, rfl, hfailed⟩
        | success base shown =>
          have hsucceeded : (Outcome.success base shown).succeeded = true := rfl
          refine .inl (answered_of_succeeded ?_ hsucceeded)
          dsimp only
          rw [outcome_bind_ok (outcome_get c')]
          split
          · have hkept : outcome (Calculator.keepAnswer base) c' =
                (.ok (), (outcome (Calculator.keepAnswer base) c').2) :=
              Prod.ext (hready.keepAnswer base) rfl
            rw [outcome_bind_ok hkept]
            rfl
          · rfl
      · refine .inr ⟨?_, e, rfl, hout⟩
        rw [outcome_bind, hr]

theorem answered_division_by_zero : Answered (outcome (evaluate "1 / 0") fresh) := by
  have hcheck : fresh.settings.check = .ok () := by rfl
  have hsettings : fresh.settings.Sound := ⟨hcheck, ⟨_, rfl⟩, ⟨_, rfl⟩⟩
  rcases answers_or_overflows fresh rfl hsettings "1 / 0" with hanswered | ⟨hoverflow, -⟩
  · exact hanswered
  · have hended : (outcome (evaluate "1 / 0") fresh).1.toBool = true := by decide +kernel
    rw [hoverflow] at hended
    cases hended

/-- The largest numbers, rounded to the left of their first digit, are out of the range. -/
theorem not_answered_round :
    ¬ Answered (outcome (evaluate "round(1.7e308, -308)") fresh) := by
  have hended : (outcome (evaluate "round(1.7e308, -308)") fresh).1.toBool = false := by
    decide +kernel
  rintro ⟨o, ho, -⟩
  rw [ho] at hended
  cases hended

end Calculator
end QuantityCalculus
