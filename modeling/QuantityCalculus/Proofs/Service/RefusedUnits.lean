/-
# Requests for units that are refused

A request to define a unit in a session is refused with a status that blames the client in two
ways. If the payload is not what is asked for, nothing is done with the session. If the definition
is refused, the session has been used: its calculator is left as the refused definition leaves it,
with the variables and functions that evaluating the text has written, and without its events.

**Main statements.** `define_cases`: a definition is a visit to the session;
`Exchange.left_of_blamed`: what is left of a session whose client is blamed;
`refused_unit_changes`: what is left of calculators and of sessions.
-/

import QuantityCalculus.Proofs.Calculator.Built
import QuantityCalculus.Proofs.Calculator.RefusedUnits
import QuantityCalculus.Proofs.Service.Isolation

namespace QuantityCalculus

open Calculator

/-! ### Calculators over either kind of scalar -/

/-- A step that defines a unit by a text and leaves what a refused definition leaves when it
fails. -/
def Refuses {β : Type} (text : String) (step : {α : Type} → [Scalar α] → Step α β) : Prop :=
  ∀ {α : Type} [Scalar α] {c : Calculator α} {fault : Fault}, c.room.isSome = true →
    (outcome step c).1 = .error fault → Refused text c (outcome step c).2

theorem refuses_inputUnit (d : Definition) : Refuses d.text (Service.inputUnit d) := by
  intro α _ c fault hroom h
  rcases fault_of_bind h with h | ⟨q, -, h⟩
  · exact (snd_outcome_bind_pure _ _ c).symm ▸ refused_defineInputUnit hroom h
  · cases h

theorem refuses_outputUnit (d : Definition) : Refuses d.text (Service.outputUnit d) := by
  intro α _ c fault hroom h
  rcases fault_of_bind h with h | ⟨u, -, h⟩
  · exact (snd_outcome_bind_pure _ _ c).symm ▸ refused_defineOutputUnit hroom h
  · cases h

namespace AnyCalculator

/-- What the definition of a unit by a text has left when it is refused. -/
inductive Refused (text : String) : AnyCalculator → AnyCalculator → Prop
  | real {c c' : Calculator Float} :
    Calculator.Refused text c c' → Refused text (.real c) (.real c')
  | complex {c c' : Calculator Complex} :
    Calculator.Refused text c c' → Refused text (.complex c) (.complex c')

/-- The frames of the host are counted. -/
def Counted (a : AnyCalculator) : Prop := a.get fun c => c.room.isSome = true

theorem refused_run {β : Type} {text : String} {step : {α : Type} → [Scalar α] → Step α β}
    (hstep : Refuses text step) {a : AnyCalculator} (hroom : a.Counted) {fault : Fault}
    (h : (a.run step).1 = .error fault) : Refused text a (a.run step).2 := by
  cases a with
  | real c => exact .real (hstep hroom h)
  | complex c => exact .complex (hstep hroom h)

end AnyCalculator

namespace Service

/-! ### Requests -/

/-- What is replied to a definition. -/
def definedReply (result : Except Fault (List (String × Json))) : Except Problem Reply :=
  (result.map fun members => .success (.obj members) 201).mapError ofFault

/-- **A definition is a visit** to the session, unless the settings of the service are not sound. -/
theorem define_cases (clock : Clock) (service : Service) (id : String)
    (step : {α : Type} → [Scalar α] → Step α (List (String × Json))) :
    (∃ p, outcome (define clock id step) service = (.error p, service)) ∨
    ∃ l, outcome (define clock id step) service =
      outcome ((Deed.visit l id (fun s => s.calculator.run step) definedReply).handler clock)
        service := by
  unfold define
  rw [outcome_bind, reads_settings service rfl]
  cases settingsOf service.configuration with
  | error p => exact .inl ⟨p, rfl⟩
  | ok s =>
    dsimp only
    unfold limitSessions
    cases Span.ofMinutes s.idleMinutes with
    | error fault => exact .inl ⟨hidden, rfl⟩
    | ok ttl =>
      refine .inr ⟨⟨ttl, s.capacity⟩, ?_⟩
      rw [handler_visit ⟨ttl, s.capacity⟩ id clock fun x => ?_]
      · rfl
      · cases x <;> rfl

/-- The status that something is replied with. -/
def statusOf : Except Problem Reply → Int
  | .ok reply => reply.status
  | .error p => p.status

theorem status_replyTo (r : Request) (result : Except Problem Reply) :
    (replyTo r result).status = statusOf result := by
  unfold replyTo
  cases result <;> dsimp only <;> split <;> rfl

/-- A status that blames the client for a payload or a definition. -/
def Blames (status : Int) : Prop := status = 400 ∨ status = 422

/-- A session as the refused definition of a unit by a text has left it: seen now, and without the
events of its calculator. -/
def LeftRefused (text : String) (now : Instant) (s s' : Session) : Prop :=
  ∃ calculator, AnyCalculator.Refused text s.calculator calculator ∧
    s' = { s with
      calculator := (SessionPool.takeJournal calculator).2
      accessed := now
      locked := false }

/-- **A definition whose client is blamed** has left its session as it was, which is so if the
settings of the service are not sound, or as a refused definition leaves it. -/
theorem define_refused {text : String}
    {step : {α : Type} → [Scalar α] → Step α (List (String × Json))} (hstep : Refuses text step)
    {clock : Clock} {service : Service} {id : String} {s : Session}
    (hs : service.stored? id = some s) (hroom : s.calculator.Counted)
    (hstatus : Blames (statusOf (outcome (define clock id step) service).1)) :
    ∃ s', (outcome (define clock id step) service).2.stored? id = some s' ∧
      (s' = s ∨ LeftRefused text clock.second s s') := by
  rcases define_cases clock service id step with ⟨p, hended⟩ | ⟨l, hended⟩
  · rw [hended]
    exact ⟨s, hs, .inl rfl⟩
  rw [hended, outcome_visit] at hstatus
  rw [hended, outcome_visit]
  dsimp only [stored?] at hs hstatus ⊢
  cases hpurged : ((service.pool.configure l.ttl l.capacity).purge
      clock.first).sessions.get? id with
  | none =>
    -- there is nobody to blame where the session is not found
    rw [SessionPool.use_of_none hpurged] at hstatus
    rcases hstatus with h | h <;> cases h
  | some t =>
    obtain rfl : t = s := by
      rw [SessionPool.get?_purge] at hpurged
      exact Option.some.inj ((Option.filter_eq_some_iff.1 hpurged).1.symm.trans hs)
    obtain ⟨hused, hleft⟩ := SessionPool.use_of_get? hpurged clock.second
      fun s => s.calculator.run step
    rw [hused] at hstatus
    refine ⟨_, hleft, .inr ⟨_, ?_, rfl⟩⟩
    cases hrun : (t.calculator.run step).1 with
    | error fault => exact AnyCalculator.refused_run hstep hroom hrun
    | ok members =>
      dsimp only [SessionPool.seenAt] at hstatus
      rw [hrun] at hstatus
      rcases hstatus with h | h <;> cases h

namespace Exchange

/-- The request leads to where units are defined in the session under an id: input units, of which
the payload says the name, or output units, of which it says the unit. -/
inductive DefinesUnit (e : Exchange) (id : String) : Schema → String → Prop
  | input {method : Method} :
    destination e.configuration e.arrival.request = .route (.inputUnit id) method →
      DefinesUnit e id Definition.inputSchema "name"
  | output {method : Method} :
    destination e.configuration e.arrival.request = .route (.outputUnit id) method →
      DefinesUnit e id Definition.outputSchema "unit"

/-- The request has left the session as it was, or as the definition that it asks for leaves it when
it is refused. -/
def LeavesRefused (e : Exchange) (id : String) (schema : Schema) (unit : String) (s : Session) :
    Prop :=
  ∃ s', e.next.stored? id = some s' ∧ (s' = s ∨
    ∃ members, payloadOf e.configuration e.arrival.request schema = .ok members ∧
      LeftRefused (Definition.ofMembers unit members).text e.arrival.clock.second s s')

variable {e : Exchange} {id unit : String} {schema : Schema} {s : Session}

/-- What is behind the payload has left the session so, or there is no payload, and then nothing is
done with the session. -/
theorem left_of_result (step : Definition → {α : Type} → [Scalar α] → Step α (List (String × Json)))
    (hstep : ∀ d, Refuses d.text (step d)) (hresult : e.result = outcome (do
      let d := Definition.ofMembers unit (← payload schema e.arrival.request)
      define e.arrival.clock id (step d)) e.service)
    (hs : e.service.stored? id = some s) (hroom : s.calculator.Counted)
    (hstatus : Blames e.reply.status) :
    e.LeavesRefused id schema unit s := by
  have hpayload : outcome (payload schema e.arrival.request) e.service =
      (payloadOf e.configuration e.arrival.request schema, e.service) :=
    reads_payload schema e.service rfl
  rw [reply_eq, status_replyTo] at hstatus
  rw [LeavesRefused, stored?_next]
  replace hresult := hresult.trans (outcome_bind _ _ _)
  rw [hpayload] at hresult
  rw [hresult] at hstatus ⊢
  cases hmembers : payloadOf e.configuration e.arrival.request schema with
  | error p => exact ⟨s, hs, .inl rfl⟩
  | ok members =>
    rw [hmembers] at hstatus
    obtain ⟨s', hs', hleft⟩ := define_refused (hstep _) hs hroom hstatus
    exact ⟨s', hs', hleft.imp_right fun h => ⟨members, rfl, h⟩⟩

/-- **A request for a unit whose client is blamed** has left the session as it was, or as the
refused definition has left it. -/
theorem left_of_blamed (h : e.DefinesUnit id schema unit) (hs : e.service.stored? id = some s)
    (hroom : s.calculator.Counted) (hstatus : Blames e.reply.status) :
    e.LeavesRefused id schema unit s := by
  have hresult : e.result = outcome (atDestination e.arrival.clock e.arrival.request
    (destination e.configuration e.arrival.request)) e.service := rfl
  cases h with
  | input hdestination =>
    rw [hdestination] at hresult
    exact left_of_result inputUnit refuses_inputUnit hresult hs hroom hstatus
  | output hdestination =>
    rw [hdestination] at hresult
    exact left_of_result outputUnit refuses_outputUnit hresult hs hroom hstatus

end Exchange

/-- **A unit that is refused changes no table of units,** and nothing else but by what its text has
assigned and defined until it ended. This is so for every calculator and for both kinds of units,
whatever the fault is. It is so for a session, too, if a request for a unit is answered with a
status that blames the client. -/
theorem refused_unit_changes :
    (∀ {α : Type} [Scalar α] (c : Calculator α) (text : String) (fault : Fault),
      c.room.isSome = true →
      (∀ name, (outcome (defineInputUnit name text) c).1 = .error fault →
        Refused text c (outcome (defineInputUnit name text) c).2) ∧
      ∀ display, (outcome (defineOutputUnit display text) c).1 = .error fault →
        Refused text c (outcome (defineOutputUnit display text) c).2) ∧
    ∀ (e : Exchange) (id unit : String) (schema : Schema) (s : Session),
      e.DefinesUnit id schema unit → e.service.stored? id = some s → s.calculator.Counted →
      Blames e.reply.status → e.LeavesRefused id schema unit s :=
  ⟨fun _ _ _ hroom =>
    ⟨fun _ => refused_defineInputUnit hroom, fun _ => refused_defineOutputUnit hroom⟩,
    fun _ _ _ _ _ hunit hs hroom hstatus => Exchange.left_of_blamed hunit hs hroom hstatus⟩

/-- A session with a new calculator. -/
def sessionFresh : Session :=
  { id := firstId, calculator := .real fresh, unitSets := [], created := 0, accessed := 0 }

/-- A request for a unit under a name that cannot be registered. -/
def refusedExchange : Exchange where
  service := { configuration := unset, pool := { sessions := .insert .empty firstId sessionFresh } }
  arrival := ⟨⟨1, 2⟩,
    { method := "POST"
      target := "/api/unit_calculator/sessions/" ++ firstId ++ "/units/input"
      body := "\x7b\"name\": \"1x\", \"expression\": \"a = 5\"\x7d" }⟩

/-- A name that starts with a digit is refused behind the evaluation. -/
theorem defineInputUnit_digit : (outcome (defineInputUnit "1x" "a = 5") fresh).1 =
    .error (.error (.invalid (.name "1x" .unit))) := by
  rfl

/-- In a calculator and in a session the refused unit leaves what evaluating its text has left. -/
theorem refused_unit_changes_fresh :
    Refused "a = 5" fresh (outcome (defineInputUnit "1x" "a = 5") fresh).2 ∧
      refusedExchange.LeavesRefused firstId Definition.inputSchema "name" sessionFresh := by
  constructor
  · exact (refused_unit_changes.1 fresh "a = 5" _ rfl).1 "1x" defineInputUnit_digit
  · have hdestination : destination unset refusedExchange.arrival.request =
        .route (.inputUnit firstId) .post := by
      decide +kernel
    have hstatus : refusedExchange.reply.status = 422 := by decide +kernel
    exact refused_unit_changes.2 refusedExchange firstId "name" Definition.inputSchema sessionFresh
      (.input hdestination) rfl rfl (.inr hstatus)

/-- What the text of a refused unit assigns stays, so it is not so that nothing changes. -/
theorem refused_unit_assigns :
    (outcome (defineInputUnit "1x" "a = 5") fresh).1 =
        .error (.error (.invalid (.name "1x" .unit))) ∧
      fresh.globals.contains "a" = false ∧
      (outcome (defineInputUnit "1x" "a = 5") fresh).2.globals.contains "a" = true :=
  ⟨defineInputUnit_digit, by decide +kernel, by decide +kernel⟩

end Service
end QuantityCalculus
