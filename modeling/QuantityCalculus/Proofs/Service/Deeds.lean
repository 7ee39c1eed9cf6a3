/-
# What a request does with the sessions

However a request is answered, it does one of four things with the sessions: nothing, work with
one of them, remove one, or start one. Which one it does and with which session depends on the
configuration and on the request, but not on the sessions that there are. The limits of the
sessions come first, and they are those that the settings give.

**Main statements.** `exists_deed`, and what each deed comes to: `outcome_visit`, `outcome_remove`
and `outcome_start`.
-/

import QuantityCalculus.Proofs.Except
import QuantityCalculus.Proofs.Steps
import QuantityCalculus.Service

namespace QuantityCalculus
namespace Service

/-! ### Whom a request addresses -/

/-- The session that is named in the body of a request to evaluate. -/
def sessionNamed? (body : Json) : Option String :=
  match body with
  | .obj given =>
    match (Payload.optional "session_id" .text).read given with
    | .ok (.str id) => some id
    | _ => none
  | _ => none

/-- The session that a route is about. -/
def sessionOf? : Route → Option String
  | .session id | .bindings id | .units id | .functions id | .snapshot id | .inputUnit id
  | .outputUnit id => some id
  | _ => none

/-- The session that a request addresses: in its path, or in its body if it is to be evaluated. -/
def addressee? (c : Configuration) (r : Request) : Option String :=
  match destination c r with
  | .route .evaluate _ =>
    match r.readBody c.bodyLimit with
    | .json body => sessionNamed? body
    | _ => none
  | .route route _ => sessionOf? route
  | _ => none

/-- Whether a request asks for a new session. -/
def asksForSession (c : Configuration) (r : Request) : Bool :=
  match destination c r with
  | .route .newSession _ | .route .importSession _ => true
  | _ => false

/-! ### Deeds -/

/-- The limits of the sessions. -/
structure Limits where
  ttl : Span
  capacity : Int

/-- The settings, or the problem that they are not sound. -/
def settingsOf (c : Configuration) : Except Problem ServiceSettings :=
  match ServiceSettings.schema.readPayload c.settings with
  | .ok members => .ok (ServiceSettings.ofMembers members)
  | .error _ => .error hidden

/-- The limits that the settings give, if they give any. Without limits nothing is done with the
sessions. -/
def limits? (c : Configuration) : Option Limits :=
  match settingsOf c with
  | .ok s => (Span.ofMinutes s.idleMinutes).toOption.map fun ttl => ⟨ttl, s.capacity⟩
  | .error _ => none

/-- What a request does with the sessions. -/
inductive Deed where
  | nothing (result : Except Problem Reply)
  | visit {β : Type} (limits : Limits) (id : String)
      (work : Session → Except Fault β × AnyCalculator)
      (result : Except Fault β → Except Problem Reply)
  | remove (limits : Limits) (id : String)
  | start (limits : Limits) (calculator : AnyCalculator) (unitSets : List String)

/-- A result or a problem that is there already. -/
def ofResult {β : Type} (result : Except Problem β) : Handler β := ExceptT.mk (pure result)

/-- Sets limits of the sessions. -/
def limit (l : Limits) : Handler PUnit :=
  modify fun service => { service with pool := service.pool.configure l.ttl l.capacity }

/-- A deed, done at a moment. -/
def Deed.handler (clock : Clock) : Deed → Handler Reply
  | .nothing result => ofResult result
  | .visit l id work result => do
    limit l
    ofResult (result (← inSession clock id work))
  | .remove l id => do
    limit l
    Service.remove id
  | .start l calculator unitSets => do
    limit l
    Service.start clock calculator unitSets

/-- A deed that suits a request: it works with the session that the request addresses, removes the
one that is to be deleted, or starts one if one is asked for, under the limits of the settings. -/
def Deed.Suits (c : Configuration) (r : Request) : Deed → Prop
  | .nothing _ => True
  | .visit l id _ _ => limits? c = some l ∧ addressee? c r = some id
  | .remove l id => limits? c = some l ∧ destination c r = .route (.session id) .delete
  | .start l _ _ => limits? c = some l ∧ asksForSession c r = true

/-- Whatever the sessions are, the handler does one and the same deed that suits the request. -/
def DoesOne (c : Configuration) (r : Request) (h : Clock → Handler Reply) : Prop :=
  ∃ d : Deed, d.Suits c r ∧ ∀ clock service, service.configuration = c →
    outcome (h clock) service = outcome (d.handler clock) service

/-- With a configuration the handler gives one and the same, and leaves everything as it is. -/
def Reads (c : Configuration) {β : Type} (x : Handler β) (result : Except Problem β) : Prop :=
  ∀ service : Service, service.configuration = c → outcome x service = (result, service)

/-! ### What deeds come to -/

section Outcomes

variable (l : Limits) (id : String) (clock : Clock) (service : Service)

theorem outcome_nothing (result : Except Problem Reply) :
    outcome ((Deed.nothing result).handler clock) service = (result, service) :=
  rfl

/-- A visit works with the session under an id, under the limits. -/
theorem outcome_visit {β : Type} (work : Session → Except Fault β × AnyCalculator)
    (result : Except Fault β → Except Problem Reply) :
    outcome ((Deed.visit l id work result).handler clock) service =
      let used := (service.pool.configure l.ttl l.capacity).use id clock.second work clock.first
      (match used.1 with
        | .ok v => result (.ok v)
        | .error .notFound => .error (noSession id)
        | .error (.fault cause) => result (.error cause),
      { service with pool := used.2 }) := by
  refine (outcome_bind_ok (outcome_modify _ _)).trans ((outcome_bind _ _ _).trans ?_)
  unfold inSession
  rw [outcome_bind_ok (outcome_get _)]
  dsimp only
  rcases SessionPool.use _ id clock.second work clock.first with ⟨_ | _, pool⟩
  · rename_i fault
    cases fault <;> rfl
  · rfl

/-- A visit whose reply is made of what the work gives. -/
theorem handler_visit {β : Type} {work : Session → Except Fault β × AnyCalculator}
    {result : Except Fault β → Except Problem Reply} {k : Except Fault β → Handler Reply}
    (hk : ∀ x, k x = ofResult (result x)) :
    (Deed.visit l id work result).handler clock =
      limit l >>= fun _ => inSession clock id work >>= k := by
  rw [funext hk]
  rfl

/-- Removing is not about the limits, but it sets them. -/
theorem outcome_remove :
    outcome ((Deed.remove l id).handler clock) service =
      let removed := (service.pool.configure l.ttl l.capacity).delete id
      (if removed.1 then
        .ok (.success (.obj [("session_id", .str id), ("deleted", .bool true)]))
      else .error (noSession id),
      { service with pool := removed.2 }) := by
  refine (outcome_bind_ok (outcome_modify _ _)).trans ?_
  unfold Service.remove
  rw [outcome_bind_ok (outcome_get _)]
  dsimp only
  rcases SessionPool.delete _ id with ⟨_ | _, pool⟩ <;> rfl

/-- Starting creates a session under the next id, under the limits. -/
theorem outcome_start (calculator : AnyCalculator) (unitSets : List String) :
    outcome ((Deed.start l calculator unitSets).handler clock) service =
      let created := (service.pool.configure l.ttl l.capacity).create
        (service.idOf (service.started + 1)) calculator unitSets clock.first clock.second
      (match created.1 with
        | .ok session => .ok (.success (.obj session.describe) 201)
        | .error _ => .error hidden,
      { service with pool := created.2, started := service.started + 1 }) := by
  refine (outcome_bind_ok (outcome_modify _ _)).trans ?_
  unfold Service.start
  rw [outcome_bind_ok (outcome_get _)]
  dsimp only
  rcases SessionPool.create _ _ calculator unitSets clock.first clock.second with ⟨_ | _, pool⟩ <;>
    rfl

/-- No deed changes the configuration. -/
theorem configuration_outcome (d : Deed) :
    (outcome (d.handler clock) service).2.configuration = service.configuration := by
  cases d with
  | nothing result => rfl
  | visit l id work result => rw [outcome_visit]
  | remove l id => rw [outcome_remove]
  | start l calculator unitSets => rw [outcome_start]

end Outcomes

variable {c : Configuration} {r : Request} {β γ : Type} {s : ServiceSettings}

/-! ### Which deeds suit a request -/

/-- A request that asks for a new session addresses none. -/
theorem addressee?_of_asks (h : asksForSession c r = true) :
    addressee? c r = none := by
  unfold asksForSession at h
  unfold addressee?
  split at h <;> simp_all [sessionOf?]

theorem addressee?_of_delete {id : String} (h : destination c r = .route (.session id) .delete) :
    addressee? c r = some id := by
  rw [addressee?, h]
  rfl

/-- A request that asks for a new session starts one or does nothing. -/
theorem suits_of_asks {d : Deed} (hasks : asksForSession c r = true)
    (hd : d.Suits c r) :
    (∃ result, d = .nothing result) ∨ ∃ l calculator unitSets, d = .start l calculator unitSets := by
  have hnone := addressee?_of_asks hasks
  cases d with
  | nothing result => exact .inl ⟨result, rfl⟩
  | visit l other work result => exact nomatch hnone.symm.trans hd.2
  | remove l other => exact nomatch hnone.symm.trans (addressee?_of_delete hd.2)
  | start l calculator unitSets => exact .inr ⟨l, calculator, unitSets, rfl⟩

/-! ### Handlers that only read -/

namespace Reads

protected theorem pure (b : β) : Reads c (pure b) (.ok b) := fun _ _ => rfl

protected theorem throw (p : Problem) : Reads c (throw p : Handler β) (.error p) := fun _ _ => rfl

/-- Looking at the configuration. -/
theorem get_bind {f : Service → Handler β} {result : Except Problem β}
    (h : ∀ service, service.configuration = c → Reads c (f service) result) :
    Reads c (get >>= f) result :=
  fun service hc => (outcome_bind_ok (outcome_get service)).trans (h service hc service hc)

theorem bind_ok {x : Handler β} {f : β → Handler γ} {b : β} {result : Except Problem γ}
    (hx : Reads c x (.ok b)) (hf : Reads c (f b) result) : Reads c (x >>= f) result :=
  fun service hc => (outcome_bind_ok (hx service hc)).trans (hf service hc)

theorem bind_error {x : Handler β} {p : Problem} (hx : Reads c x (.error p))
    (f : β → Handler γ) : Reads c (x >>= f) (.error p) := by
  intro service hc
  rw [outcome_bind, hx service hc]

end Reads

/-- What is known of a body before its members are. -/
def bodyOf (c : Configuration) (r : Request) : Except Problem Json :=
  match r.readBody c.bodyLimit with
  | .absent => .ok (.obj [])
  | .json body => .ok body
  | .tooLarge => .error tooLarge
  | .tooDeep => .error hidden

/-- The members of a payload. -/
def payloadOf (c : Configuration) (r : Request) (schema : Schema) :
    Except Problem (List (String × Json)) :=
  match bodyOf c r with
  | .ok body => (schema.readPayload body).mapError invalidPayload
  | .error p => .error p

theorem reads_payload (schema : Schema) : Reads c (payload schema r) (payloadOf c r schema) := by
  refine Reads.get_bind fun service hc => ?_
  have hmembers (body : Json) : Reads c (match schema.readPayload body with
      | .ok members => pure members
      | .error findings => throw (invalidPayload findings))
      ((schema.readPayload body).mapError invalidPayload) := by
    cases schema.readPayload body with
    | ok members => exact Reads.pure members
    | error findings => exact Reads.throw _
  unfold payloadOf bodyOf
  rw [hc]
  cases r.readBody c.bodyLimit with
  | absent => exact (Reads.pure _).bind_ok (hmembers _)
  | json body => exact (Reads.pure _).bind_ok (hmembers _)
  | tooLarge => exact (Reads.throw _).bind_error _
  | tooDeep => exact (Reads.throw _).bind_error _

theorem reads_settings : Reads c settings (settingsOf c) := by
  refine Reads.get_bind fun service hc => ?_
  unfold settingsOf
  rw [hc]
  cases ServiceSettings.schema.readPayload c.settings with
  | ok members => exact Reads.pure _
  | error findings => exact Reads.throw _

theorem reads_orHidden (result : Except Fault β) :
    Reads c (orHidden result) (result.mapError fun _ => hidden) := by
  cases result with
  | ok b => exact Reads.pure b
  | error fault => exact Reads.throw hidden

theorem exists_reads_checkUnitSets (names : Option (List String)) :
    ∃ result, Reads c (checkUnitSets names) result := by
  unfold checkUnitSets
  split
  · exact ⟨_, Reads.pure ()⟩
  · exact ⟨_, Reads.throw _⟩

/-! ### Handlers that do one deed -/

namespace DoesOne

/-- A handler that only reads does nothing with the sessions. -/
theorem of_reads {h : Handler Reply} {result : Except Problem Reply} (hr : Reads c h result) :
    DoesOne c r fun _ => h :=
  ⟨.nothing result, trivial, fun _ service hc => hr service hc⟩

/-- What is read comes before the deed. -/
protected theorem bind {x : Handler β} {f : Clock → β → Handler Reply} {result : Except Problem β}
    (hx : Reads c x result) (hf : ∀ b, result = .ok b → DoesOne c r fun clock => f clock b) :
    DoesOne c r fun clock => x >>= f clock := by
  cases result with
  | error p => exact ⟨.nothing (.error p), trivial, fun clock => hx.bind_error (f clock)⟩
  | ok b =>
    obtain ⟨d, hd, h⟩ := hf b rfl
    exact ⟨d, hd, fun clock service hc =>
      (outcome_bind_ok (hx service hc)).trans (h clock service hc)⟩

/-- The limits come before the deed, and are those of the settings. -/
theorem limited (hs : settingsOf c = .ok s) (deed : Limits → Deed)
    (hsuits : ∀ l, limits? c = some l → (deed l).Suits c r) {h : Clock → Handler Reply}
    (hh : ∀ l clock, (deed l).handler clock = limit l >>= fun _ => h clock) :
    DoesOne c r fun clock => limitSessions s >>= fun _ => h clock := by
  unfold limitSessions
  cases hspan : Span.ofMinutes s.idleMinutes with
  | error fault =>
    exact ⟨.nothing (.error hidden), trivial, fun clock =>
      (Reads.throw hidden).bind_error fun _ => h clock⟩
  | ok ttl =>
    refine ⟨deed ⟨ttl, s.capacity⟩, hsuits _ ?_, fun clock service _ => ?_⟩
    · rw [limits?, hs]
      simp only [hspan]
      rfl
    · rw [hh]
      rfl

/-- A handler that works with the session that the request addresses. -/
theorem visit (hs : settingsOf c = .ok s) {id : String} (haddressee : addressee? c r = some id)
    (work : Session → Except Fault β × AnyCalculator)
    (result : Except Fault β → Except Problem Reply) {k : Except Fault β → Handler Reply}
    (hk : ∀ x, k x = ofResult (result x)) :
    DoesOne c r fun clock => limitSessions s >>= fun _ => inSession clock id work >>= k := by
  exact limited hs (.visit · id work result) (fun _ hl => ⟨hl, haddressee⟩) fun l clock =>
    handler_visit l id clock hk

/-- A handler that starts a session, where one is asked for. -/
theorem start (hs : settingsOf c = .ok s) (hasks : asksForSession c r = true)
    (calculator : AnyCalculator) (unitSets : List String) :
    DoesOne c r fun clock => limitSessions s >>= fun _ => Service.start clock calculator unitSets :=
  limited hs (.start · calculator unitSets) (fun _ hl => ⟨hl, hasks⟩) fun _ _ => rfl

end DoesOne

/-! ### All handlers -/

/-- A handler that reads the settings first. -/
theorem doesOne_settings {f : Clock → ServiceSettings → Handler Reply}
    (h : ∀ s, settingsOf c = .ok s → DoesOne c r fun clock => f clock s) :
    DoesOne c r fun clock => settings >>= f clock :=
  DoesOne.bind reads_settings h

theorem exists_reads_home : ∃ result, Reads c home result := by
  refine ⟨(outcome home { configuration := c }).1, ?_⟩
  rintro service rfl
  unfold home
  rw [outcome_bind_ok (outcome_get service), outcome_bind_ok (outcome_get _)]
  dsimp only
  split <;> rfl

theorem doesOne_kinds : DoesOne c r fun _ => kinds :=
  doesOne_settings fun _ _ => DoesOne.of_reads (Reads.pure _)

theorem doesOne_unitSets : DoesOne c r fun _ => unitSets :=
  doesOne_settings fun _ _ => DoesOne.of_reads (Reads.pure _)

theorem doesOne_evaluateAlone (s : ServiceSettings) (e : Evaluation) :
    DoesOne c r fun _ => evaluateAlone s e :=
  DoesOne.bind (reads_orHidden _) fun _ _ => DoesOne.bind (reads_orHidden _) fun _ _ =>
    DoesOne.of_reads (Reads.pure _)

/-- The reply to an evaluation in a session, which was of some kind and has a value if that is the
kind that was asked for. -/
def replyIn (id : String) (r : ScalarKind × Option Json) : Except Problem Reply :=
  r.2.elim
    (.error (invalidRequest ("Session '" ++ id ++ "' uses the " ++ r.1.name ++ " domain")))
    fun data => .ok (.success data 200 [("domain", .str r.1.name), ("session_id", .str id)])

theorem doesOne_evaluateIn (hs : settingsOf c = .ok s) {id : String}
    (haddressee : addressee? c r = some id) (e : Evaluation) :
    DoesOne c r fun clock => evaluateIn clock id s e := by
  refine DoesOne.visit hs haddressee _
    (fun x => (x.mapError fun _ => hidden).bind (replyIn id)) fun x => ?_
  rcases x with fault | ⟨kind, data | data⟩ <;> rfl

theorem readMembers_cons {given vs : List (String × Json)} {m : Member} {ms : List Member}
    (h : Schema.readMembers given (m :: ms) = .ok vs) :
    ∃ v rest, m.read given = .ok v ∧ Schema.readMembers given ms = .ok rest ∧
      vs = (m.name, v) :: rest := by
  unfold Schema.readMembers at h
  split at h <;> cases h
  exact ⟨_, _, ‹_›, ‹_›, rfl⟩

/-- The members of a payload are those of an object, or of none if it is not present. -/
theorem exists_readMembers {schema : Schema} {body : Json} {members : List (String × Json)}
    (h : schema.readPayload body = .ok members) :
    ∃ given, (body = .obj given ∨ given = []) ∧
      Schema.readMembers given schema.members = .ok members := by
  have hread {v : Json} (h : schema.read v = .ok members) :
      ∃ given, v = .obj given ∧ Schema.readMembers given schema.members = .ok members := by
    unfold Schema.read at h
    split at h
    · rename_i given
      split at h
      · cases h
      · split at h <;> cases h
        exact ⟨given, rfl, ‹_›⟩
    · cases h
  unfold Schema.readPayload at h
  split at h
  · obtain ⟨given, hgiven, hmembers⟩ := hread h
    exact ⟨given, .inl hgiven, hmembers⟩
  · obtain ⟨given, hgiven, hmembers⟩ := hread h
    cases hgiven
    exact ⟨[], .inr rfl, hmembers⟩

/-- The session of an evaluation is the one that is named in its body. -/
theorem sessionNamed?_of_read {body : Json} {members : List (String × Json)} {id : String}
    (h : Evaluation.schema.readPayload body = .ok members)
    (hid : (Evaluation.ofMembers members).session = some id) : sessionNamed? body = some id := by
  obtain ⟨given, hgiven, h⟩ := exists_readMembers h
  obtain ⟨expression, rest, hexpression, hrest, rfl⟩ := readMembers_cons h
  obtain ⟨named, others, hnamed, -, rfl⟩ := readMembers_cons hrest
  rcases hgiven with rfl | rfl
  · have hnamed' : named = .str id := by
      have hid : Payload.text? "session_id"
          (("expression", expression) :: ("session_id", named) :: others) = some id := hid
      cases named <;> simp_all [Payload.text?, Json.member?]
    subst hnamed'
    show (match (Payload.optional "session_id" .text).read given with
      | .ok (.str id) => some id
      | _ => none) = some id
    rw [show (Payload.optional "session_id" .text).read given = .ok (.str id) from hnamed]
  · -- an expression is required
    cases hexpression

/-- The session of an evaluation is the one that the request addresses. -/
theorem addressee?_of_session {method : Method} {members : List (String × Json)} {id : String}
    (h : destination c r = .route .evaluate method)
    (hmembers : payloadOf c r Evaluation.schema = .ok members)
    (hid : (Evaluation.ofMembers members).session = some id) : addressee? c r = some id := by
  unfold payloadOf bodyOf at hmembers
  rw [addressee?, h]
  dsimp only
  cases hbody : r.readBody c.bodyLimit with
  | json body =>
    rw [hbody] at hmembers
    exact sessionNamed?_of_read (Except.mapError_eq_ok_iff.1 hmembers) hid
  | absent =>
    rw [hbody] at hmembers
    -- without a body there is no session
    have hnone := sessionNamed?_of_read (Except.mapError_eq_ok_iff.1 hmembers) hid
    cases hnone
  | tooLarge =>
    rw [hbody] at hmembers
    cases hmembers
  | tooDeep =>
    rw [hbody] at hmembers
    cases hmembers

theorem doesOne_evaluate {method : Method} (h : destination c r = .route .evaluate method) :
    DoesOne c r fun clock => evaluate clock r := by
  refine DoesOne.bind (reads_payload _) fun members hmembers => doesOne_settings fun s hs => ?_
  obtain ⟨result, hchecked⟩ :=
    exists_reads_checkUnitSets (c := c) (Evaluation.ofMembers members).unitSets
  dsimp only
  by_cases hlong : s.longestText < (Evaluation.ofMembers members).text.length
  · simp only [if_pos hlong]
    exact DoesOne.bind (Reads.throw _) fun _ h => nomatch h
  · simp only [if_neg hlong]
    refine DoesOne.bind hchecked fun _ _ => ?_
    cases hid : (Evaluation.ofMembers members).session with
    | none => exact doesOne_evaluateAlone s _
    | some id => exact doesOne_evaluateIn hs (addressee?_of_session h hmembers hid) _

theorem doesOne_newSession (h : asksForSession c r = true) :
    DoesOne c r fun clock => newSession clock r := by
  refine DoesOne.bind (reads_payload _) fun members _ => ?_
  obtain ⟨result, hchecked⟩ := exists_reads_checkUnitSets (c := c) (NewSession.ofMembers members).unitSets
  refine DoesOne.bind hchecked fun _ _ => doesOne_settings fun s hs => ?_
  exact DoesOne.bind (reads_orHidden _) fun a _ => DoesOne.start hs h a _

theorem doesOne_importSession (h : asksForSession c r = true) :
    DoesOne c r fun clock => importSession clock r := by
  refine DoesOne.bind (reads_payload _) fun members _ => ?_
  split
  · exact doesOne_settings fun s hs => DoesOne.start hs h _ _
  · exact DoesOne.of_reads (Reads.throw _)
  · exact DoesOne.of_reads (Reads.throw _)

theorem doesOne_listing {id : String} (haddressee : addressee? c r = some id)
    (view : {α : Type} → [Scalar α] → Calculator α → List (String × Json)) :
    DoesOne c r fun clock => listing clock id view := by
  refine doesOne_settings fun s hs => DoesOne.visit hs haddressee _ (fun x =>
    (x.map fun members => .success (.obj (("session_id", .str id) :: members))).mapError
      fun _ => hidden) fun x => ?_
  cases x <;> rfl

theorem doesOne_session {id : String} (haddressee : addressee? c r = some id) :
    DoesOne c r fun clock => session clock id := by
  refine doesOne_settings fun s hs => DoesOne.visit hs haddressee _ (fun x =>
    (x.map fun members => .success (.obj members)).mapError fun _ => hidden) fun x => ?_
  cases x <;> rfl

theorem doesOne_delete {id : String} (h : destination c r = .route (.session id) .delete) :
    DoesOne c r fun _ => delete id :=
  doesOne_settings fun _ hs =>
    DoesOne.limited hs (fun l => .remove l id) (fun _ hl => ⟨hl, h⟩) fun _ _ => rfl

theorem doesOne_define {id : String} (haddressee : addressee? c r = some id)
    (step : {α : Type} → [Scalar α] → Step α (List (String × Json))) :
    DoesOne c r fun clock => define clock id step := by
  refine doesOne_settings fun s hs => DoesOne.visit hs haddressee _ (fun x =>
    (x.map fun members => .success (.obj members) 201).mapError ofFault) fun x => ?_
  cases x <;> rfl

/-- **Every request does one deed,** whatever the sessions are. -/
theorem exists_deed (c : Configuration) (r : Request) :
    ∃ d : Deed, d.Suits c r ∧ ∀ (clock : Clock) (service : Service), service.configuration = c →
      service.serve clock r = outcome (d.handler clock) service := by
  have hone : DoesOne c r fun clock => atDestination clock r (destination c r) := by
    cases h : destination c r with
    | route route method =>
      have haddressee : route ≠ .evaluate → addressee? c r = sessionOf? route := by
        intro hne
        rw [addressee?, h]
        cases route <;> first | rfl | exact absurd rfl hne
      cases route with
      | home =>
        obtain ⟨result, hhome⟩ := exists_reads_home (c := c)
        exact DoesOne.of_reads hhome
      | health => exact DoesOne.of_reads (Reads.pure _)
      | asset => exact DoesOne.of_reads (Reads.throw _)
      | kinds => exact doesOne_kinds
      | unitSets => exact doesOne_unitSets
      | evaluate => exact doesOne_evaluate h
      | newSession => exact doesOne_newSession (by rw [asksForSession, h])
      | importSession => exact doesOne_importSession (by rw [asksForSession, h])
      | session id =>
        cases method with
        | delete => exact doesOne_delete h
        | _ => exact doesOne_session (haddressee nofun)
      | bindings id => exact doesOne_listing (haddressee nofun) _
      | units id => exact doesOne_listing (haddressee nofun) _
      | functions id => exact doesOne_listing (haddressee nofun) _
      | snapshot id => exact doesOne_listing (haddressee nofun) _
      | inputUnit id =>
        exact DoesOne.bind (reads_payload _) fun _ _ => doesOne_define (haddressee nofun) _
      | outputUnit id =>
        exact DoesOne.bind (reads_payload _) fun _ _ => doesOne_define (haddressee nofun) _
    | options => exact DoesOne.of_reads (Reads.pure _)
    | elsewhere => exact DoesOne.of_reads (Reads.pure _)
    | methodNotTaken => exact DoesOne.of_reads (Reads.throw _)
    | nowhere => exact DoesOne.of_reads (Reads.throw _)
  obtain ⟨d, hd, h⟩ := hone
  refine ⟨d, hd, ?_⟩
  rintro clock service rfl
  exact h clock service rfl

end Service
end QuantityCalculus
