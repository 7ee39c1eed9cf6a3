/-
# A calculator with a higher limit on open calls

The limit on open calls is consulted where a call begins, and nothing catches the fault of a call
that is refused: the operations around it pass it on, up to the outcome of the text, whose message
it becomes. So an outcome with any other message, or with a result, is what a calculator with a
higher limit gives as well, and what the text leaves behind is the same.

The frames of the host end an evaluation in a similar way. They are set aside in the calculator with
the higher limit, since deeper calls need more of them.

**Main statement.** `Calculator.evaluate_raised`.
-/

import QuantityCalculus.Proofs.Calculator.Answers
import QuantityCalculus.Proofs.Machine.Limits

namespace QuantityCalculus
namespace Calculator

variable {α : Type}

/-- The calculator with another limit on open calls, and a host whose frames never run out. -/
def raised (c : Calculator α) (d : Json) : Calculator α :=
  { c with settings := c.settings.withCallDepth d, room := none }

/-- The outcome of a text that a refused call has ended, or the host. -/
def CutShort (s : Settings) (room : Room) (r : Except Fault (Outcome α)) : Prop :=
  (∃ name, r = .ok (.failure (CalcError.callDepth s.maxCallDepth.plain name).message)) ∨
    room ≠ none ∧ r = .ok (.failure SyntaxError.tooDeep.message)

/-- A calculator with some settings and some room, and the same with a higher limit. -/
structure Beside (s : Settings) (room : Room) (d : Json) (c c' : Calculator α) : Prop where
  settings : c.settings = s
  room : c.room = room
  raised : c' = c.raised d

/-- The faults of refused calls, and of a host whose frames run out. -/
def Cuts (s : Settings) (room : Room) (fault : Fault) : Prop :=
  s.Refuses fault ∨ room ≠ none ∧ fault = .stackExhausted

variable {s : Settings} {room : Room} {d : Json}

/-- What changes a calculator without regard to its limit and its room. -/
theorem Beside.map {c c' : Calculator α} {f : Calculator α → Calculator α}
    (h : Beside s room d c c') (hsettings : (f c).settings = c.settings)
    (hroom : (f c).room = c.room) (hf : f (c.raised d) = (f c).raised d) :
    Beside s room d (f c) (f c') where
  settings := hsettings.trans h.settings
  room := hroom.trans h.room
  raised := by rw [h.raised, hf]

theorem agree_fail_raised (message : String) :
    Agree (Beside s room d) (fail message : Step α (Outcome α)) (fail message) :=
  (Agree.modify fun _ _ h => h.map (f := (·.postDiagnostic message)) rfl rfl rfl).bind
    fun _ => Agree.pure _

/-- What a result or a conversion ends with is caught under both limits, or it is cut short. -/
theorem caught_raised {attempt : Step α (Outcome α)}
    (hattempt : AgreeUnless (Cuts s room) (Beside s room d) attempt attempt) {c c' : Calculator α}
    (h : Beside s room d c c') :
    let ended c := outcome (tryCatch attempt fun fault =>
      match fault with
      | .error cause => fail cause.message
      | .stackExhausted => fail SyntaxError.tooDeep.message
      | other => throw other) c
    CutShort s room (ended c).1 ∨
      (ended c).1 = (ended c').1 ∧ Beside s room d (ended c).2 (ended c').2 := by
  have hended := hattempt c c' h
  dsimp only
  rw [outcome_tryCatch, outcome_tryCatch]
  revert hended
  cases outcome attempt c with
  | mk r after =>
    cases outcome attempt c' with
    | mk r' after' =>
      rintro (⟨fault, hr, hrefused | hhost⟩ | ⟨hresult, hafter⟩)
      · obtain ⟨name, rfl⟩ := hrefused
        cases hr
        exact .inl (.inl ⟨name, rfl⟩)
      · obtain ⟨hroom, rfl⟩ := hhost
        cases hr
        exact .inl (.inr ⟨hroom, rfl⟩)
      · cases hresult
        refine .inr ?_
        cases r with
        | ok o => exact ⟨rfl, hafter⟩
        | error fault =>
          dsimp only
          split
          · exact agree_fail_raised _ after after' hafter
          · exact agree_fail_raised _ after after' hafter
          · exact Agree.throw _ after after' hafter

theorem agree_keepAnswer_raised (q : Quantity α) :
    Agree (Beside s room d) (keepAnswer q : Step α Unit) (keepAnswer q) := by
  refine Agree.get_bind fun c c' h => ?_
  have hname : c'.settings.answerVariable = c.settings.answerVariable := by rw [h.raised]; rfl
  rw [hname]
  let bound (name : String) (c : Calculator α) : Calculator α :=
    { c with globals := c.globals.insert name ⟨q, none⟩ }
  let answered (name : Json) (c : Calculator α) : Calculator α :=
    { c with answers := bindAnswer name ⟨q, none⟩ c.answers }
  split
  · rename_i name _
    exact ⟨rfl, h.map (f := bound name) rfl rfl rfl⟩
  · exact ⟨rfl, h⟩
  · exact ⟨rfl, h⟩
  · exact ⟨rfl, h.map (f := answered c.settings.answerVariable) rfl rfl rfl⟩

/-- Whether a result goes to the answer variable does not depend on the limit. -/
theorem agree_kept_raised (keeps : Bool) (o : Outcome α) :
    let kept : Step α (Outcome α) :=
      match o with
      | .failure _ => return o
      | .success base _ => do
        if (← get).settings.answerVariable.isPresent && keeps then keepAnswer base
        return o
    Agree (Beside s room d) kept kept := by
  intro kept
  cases o with
  | failure message => exact Agree.pure _
  | success base shown =>
    refine Agree.get_bind fun c c' h => ?_
    have hname : c'.settings.answerVariable = c.settings.answerVariable := by rw [h.raised]; rfl
    rw [hname]
    split
    · exact ((agree_keepAnswer_raised base).bind fun _ => Agree.pure _) c c' h
    · exact Agree.pure _ c c' h

variable [Scalar α]

theorem agreeUnless_valueOf (hs : s.Raised d) (e : Expr) :
    AgreeUnless (Cuts s room) (Beside s room d) (valueOf e : Step α (Quantity α)) (valueOf e) := by
  rintro c _ ⟨rfl, rfl, rfl⟩
  rw [outcome_valueOf, outcome_valueOf]
  by_cases hcut : ∃ fault, (c.machine.resolve c.room e).1 = .error fault ∧
      Cuts c.settings c.room fault
  · exact .inl hcut
  refine .inr ?_
  have hcall : c.machine.settings.Spares (c.machine.resolve c.room e).1 :=
    fun fault hfault hrefused => hcut ⟨fault, hfault, .inl hrefused⟩
  have hhost : c.room = none ∨ (c.machine.resolve c.room e).1 ≠ .error .stackExhausted := by
    refine Decidable.or_iff_not_imp_left.2 fun hroom hfault => ?_
    exact hcut ⟨_, hfault, .inr ⟨hroom, rfl⟩⟩
  have hresolve : (c.raised d).machine.resolve none e = _ :=
    c.machine.resolve_withCallDepth hs e hcall hhost
  have hroom : (c.raised d).room = none := rfl
  rw [hroom, hresolve]
  exact ⟨rfl, rfl, rfl, rfl⟩

theorem agreeUnless_convert (hs : s.Raised d) (value target : Expr) :
    AgreeUnless (Cuts s room) (Beside s room d) (convert value target : Step α (Outcome α))
      (convert value target) :=
  (agreeUnless_valueOf hs value).bind fun _ => (agreeUnless_valueOf hs target).bind fun _ =>
    .of_agree ((Agree.lift _).bind fun _ => Agree.pure _)

theorem agreeUnless_result (hs : s.Raised d) (e : Expr) :
    AgreeUnless (Cuts s room) (Beside s room d) (result e : Step α (Outcome α)) (result e) := by
  refine (agreeUnless_valueOf hs e).bind fun base => .of_agree (Agree.get_bind fun c c' h => ?_)
  have hshows : c'.settings.showsOutputUnits = c.settings.showsOutputUnits := by rw [h.raised]; rfl
  have hshown : c'.inOutputUnit? base = c.inOutputUnit? base := by rw [h.raised]; rfl
  rw [hshows, hshown]
  split
  · exact (Agree.lift _).bind (fun _ => Agree.pure _) c c' h
  · exact Agree.pure _ c c' h

/-- **The outcome of an expression** is cut short, or it is the same under a higher limit. -/
theorem resolve_raised (hs : s.Raised d) (e : Expr) {c c' : Calculator α}
    (h : Beside s room d c c') :
    CutShort s room (outcome (resolve e) c).1 ∨
      (outcome (resolve e) c).1 = (outcome (resolve e) c').1 ∧
        Beside s room d (outcome (resolve e) c).2 (outcome (resolve e) c').2 := by
  unfold resolve
  dsimp only
  split
  · exact caught_raised (agreeUnless_convert hs _ _) h
  · exact caught_raised (agreeUnless_result hs _) h

/-- **The outcome of a text** is cut short, or it is the same under a higher limit. -/
theorem evaluate_beside (hs : s.Raised d) (text : String) {c c' : Calculator α}
    (h : Beside s room d c c') :
    (∃ e, c.read text = .ok e) ∧ CutShort s room (outcome (evaluate text) c).1 ∨
      (outcome (evaluate text) c).1 = (outcome (evaluate text) c').1 ∧
        Beside s room d (outcome (evaluate text) c).2 (outcome (evaluate text) c').2 := by
  have hread : c'.read text = c.read text := by rw [h.raised]; rfl
  unfold evaluate
  rw [outcome_bind_ok (outcome_get c), outcome_bind_ok (outcome_get c'), hread]
  cases c.read text with
  | error fault =>
    refine .inr ?_
    dsimp only
    split
    · exact agree_fail_raised _ c c' h
    · exact Agree.throw _ c c' h
    · rename_i heq
      cases heq
  | ok e =>
    dsimp only
    have hended := resolve_raised hs e h
    rw [outcome_bind, outcome_bind]
    revert hended
    cases outcome (resolve e) c with
    | mk r after =>
      cases outcome (resolve e) c' with
      | mk r' after' =>
        rintro ((⟨name, hr⟩ | ⟨hroom, hr⟩) | ⟨hresult, hafter⟩)
        · -- a failed outcome of the expression is the outcome of the text
          cases hr
          exact .inl ⟨⟨e, rfl⟩, .inl ⟨name, rfl⟩⟩
        · cases hr
          exact .inl ⟨⟨e, rfl⟩, .inr ⟨hroom, rfl⟩⟩
        · cases hresult
          refine .inr ?_
          cases r with
          | error fault => exact ⟨rfl, hafter⟩
          | ok o => exact agree_kept_raised (!e.definesFunction) o after after' hafter

/-- **A higher limit only removes refusals.** Whatever a calculator holds and whatever a text says:
if the outcome is a result, or a failure with another message than that of a refused call, it is the
same under a higher limit on open calls; and the calculator that is left is the same, with the
variables, functions, units and constants that it had under the lower limit. -/
theorem evaluate_raised (c : Calculator α) (text : String) {d : Json} {limit limit' : Nat}
    (hlimit : c.settings.callLimit? = some (.atMost limit))
    (hlimit' : (c.raised d).settings.callLimit? = some (.atMost limit')) (hle : limit ≤ limit')
    (hcall : ∀ name, (outcome (evaluate text) c).1 ≠
      .ok (.failure (CalcError.callDepth c.settings.maxCallDepth.plain name).message))
    (hhost : c.room = none ∨ (∃ fault, c.read text = .error fault) ∨
      (outcome (evaluate text) c).1 ≠ .ok (.failure SyntaxError.tooDeep.message)) :
    outcome (evaluate text) (c.raised d) =
      ((outcome (evaluate text) c).1, (outcome (evaluate text) c).2.raised d) := by
  have hs : c.settings.Raised d := ⟨limit, limit', hlimit, hlimit', hle⟩
  have hbeside : Beside c.settings c.room d c (c.raised d) := ⟨rfl, rfl, rfl⟩
  rcases evaluate_beside hs text hbeside with ⟨⟨e, he⟩, hcut⟩ | ⟨hresult, hafter⟩
  · rcases hcut with ⟨name, hr⟩ | ⟨hroom, hr⟩
    · exact (hcall name hr).elim
    · rcases hhost with hnone | ⟨fault, hfault⟩ | hdeep
      · exact (hroom hnone).elim
      · cases he.symm.trans hfault
      · exact (hdeep hr).elim
  · exact Prod.ext hresult.symm hafter.raised

/-- A calculator with the function `f(n) = n ? f(n - 1) : 0` and a limit on open calls. -/
def countdown (d : Int) : Calculator Float :=
  { settings := { maxCallDepth := .int d }
    functions := Functions.define .empty
      ⟨"f", [.name "n"],
        .conditional (.name "n")
          (.call "f" [.binary .subtract (.name "n") (.scalar "1") "n - 1"] "f(n - 1)")
          (.scalar "0") "n ? f(n - 1) : 0",
        "n ? f(n - 1) : 0"⟩ }

theorem evaluate_countdown_raised :
    outcome (evaluate "f(2)") ((countdown 3).raised (.int 8)) =
      ((outcome (evaluate "f(2)") (countdown 3)).1,
        (outcome (evaluate "f(2)") (countdown 3)).2.raised (.int 8)) := by
  have hended : ((outcome (evaluate "f(2)") (countdown 3)).1.map Outcome.succeeded).toOption =
      some true := by
    decide +kernel
  have hsucceeded (message : String) :
      (outcome (evaluate "f(2)") (countdown 3)).1 ≠ .ok (.failure message) := by
    intro h
    rw [h] at hended
    cases hended
  have hlimit : (countdown 3).settings.callLimit? = some (.atMost 3) := rfl
  have hlimit' : ((countdown 3).raised (.int 8)).settings.callLimit? = some (.atMost 8) := rfl
  exact evaluate_raised (countdown 3) "f(2)" hlimit hlimit' (by decide) (fun _ => hsucceeded _)
    (.inr (.inr (hsucceeded _)))

end Calculator
end QuantityCalculus
