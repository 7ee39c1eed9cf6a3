/-
# What a request means for one session

A request may start a session, address it, or be about something else. If it is about something
else, the session stays as it is, but that it goes once it was idle for too long: whether that
happens here or only when someone asks for it makes no difference, and so only sessions that are
`live` at a moment count. If the request is about the session, then the reply to it and what it
leaves depend on the session as far as it is live, on the configuration and on the clock, and on
nothing else that there is in the service.

Two things are told apart from this. A session may be evicted where other sessions are started.
And removing a session does not look at how long it was idle, so the reply tells whether the
session went before.

**Main statements.** `live_next` for one request that is not about a session, `same_next` for one
that is about it, in two services, and `evicts_of_room` and `starts_again` for requests for sessions.
-/

import QuantityCalculus.Proofs.Service.Deeds
import QuantityCalculus.Proofs.Session.Single

namespace QuantityCalculus
namespace Service

/-! ### Requests that are answered -/

/-- The session that there is under an id. -/
def stored? (service : Service) (id : String) : Option Session := service.pool.sessions.get? id

/-- A request, with the clock as it stands when the request is received. -/
structure Arrival where
  clock : Clock
  request : Request

/-- A request that a service answers. -/
structure Exchange where
  service : Service
  arrival : Arrival

namespace Exchange

variable (e : Exchange)

/-- The configuration that the service has. -/
def configuration : Configuration := e.service.configuration

/-- What the request comes to, before it is put into a reply. -/
def result : Except Problem Reply × Service := e.service.serve e.arrival.clock e.arrival.request

/-- The reply to the request. -/
def reply : Reply := (e.service.answer e.arrival.clock.first e.arrival.request
  e.arrival.clock.second).1

/-- The service after the request. -/
def next : Service := (e.service.answer e.arrival.clock.first e.arrival.request
  e.arrival.clock.second).2

/-- What is logged where a new session is asked for. -/
def logged : List Event :=
  if asksForSession e.configuration e.arrival.request then e.result.2.pool.journal else []

/-- Whether the request starts a session under an id. -/
def starts (id : String) : Bool := e.logged.any fun
  | .sessionCreated created _ => created == id
  | _ => false

/-- Whether the session under an id is evicted to make room for a new one. -/
def evicts (id : String) : Bool := e.logged.any fun
  | .sessionEvicted evicted => evicted == id
  | _ => false

/-- Whether the request addresses the session under an id. -/
def addresses (id : String) : Bool := addressee? e.configuration e.arrival.request == some id

/-- Whether the request is about the session under an id: it starts or addresses it. -/
def concerns (id : String) : Bool := e.starts id || e.addresses id

/-- Whether the request removes the session under an id after it was idle too long. -/
def RemovesLate (id : String) : Prop :=
  destination e.configuration e.arrival.request = .route (.session id) .delete ∧
    ∃ l s, limits? e.configuration = some l ∧ e.service.stored? id = some s ∧
      s.expired l.ttl e.arrival.clock.first

/-- The session under an id is not evicted, and not removed after it was idle too long. -/
structure Spares (id : String) : Prop where
  evicts : e.evicts id = false
  removes : ¬ e.RemovesLate id

end Exchange

/-! ### Sessions that were not idle too long -/

/-- A session that there may be, if it was not idle too long. -/
def live (c : Configuration) (now : Instant) (s : Option Session) : Option Session :=
  s.filter fun s => !(limits? c).any fun l => s.expired l.ttl now

variable {c : Configuration} {id : String} {now later : Instant} {l : Limits}

theorem expired_of_le {ttl : Span} {s : Session} (hle : now ≤ later) (h : s.expired ttl now) :
    s.expired ttl later := by
  simp only [Session.expired, decide_eq_true_eq] at h ⊢
  exact Int.lt_of_lt_of_le h (Int.sub_le_sub_right hle _)

/-- What is live later was live before. -/
theorem live_live (hle : now ≤ later) (s : Option Session) :
    live c later (live c now s) = live c later s := by
  unfold live
  rw [Option.filter_filter]
  congr 1
  funext s
  cases limits? c with
  | none => rfl
  | some l =>
    have hstays : s.expired l.ttl now → s.expired l.ttl later := expired_of_le hle
    cases h : s.expired l.ttl now <;> simp_all

/-- Purging keeps what is live. -/
theorem get?_purge_eq_live (hl : limits? c = some l) (p : SessionPool) (now : Instant)
    (id : String) :
    ((p.configure l.ttl l.capacity).purge now).sessions.get? id =
      live c now (p.sessions.get? id) := by
  rw [SessionPool.get?_purge, live, hl]
  rfl

/-! ### One request -/

namespace Exchange

variable {e : Exchange}

theorem reply_eq (e : Exchange) : e.reply = replyTo e.arrival.request e.result.1 := rfl

theorem stored?_next (e : Exchange) (id : String) :
    e.next.stored? id = e.result.2.stored? id :=
  rfl

theorem journal_next (e : Exchange) : e.next.pool.journal = [] := rfl

/-- The request does one deed. -/
theorem exists_deed_result (e : Exchange) : ∃ d : Deed,
    d.Suits e.configuration e.arrival.request ∧
      e.result = outcome (d.handler e.arrival.clock) e.service := by
  obtain ⟨d, hd, h⟩ := exists_deed e.configuration e.arrival.request
  exact ⟨d, hd, h _ _ rfl⟩

theorem configuration_next (e : Exchange) : e.next.configuration = e.configuration := by
  obtain ⟨d, -, hresult⟩ := e.exists_deed_result
  show e.result.2.configuration = _
  rw [hresult, configuration_outcome]
  rfl

theorem logged_of_asks (h : asksForSession e.configuration e.arrival.request = true) :
    e.logged = e.result.2.pool.journal :=
  if_pos h

/-- Only requests for new sessions log anything here. -/
theorem asks_of_mem_logged {event : Event} (h : event ∈ e.logged) :
    asksForSession e.configuration e.arrival.request = true := by
  unfold logged at h
  split at h
  · assumption
  · cases h

theorem starts_iff : e.starts id = true ↔ ∃ kind, .sessionCreated id kind ∈ e.logged := by
  rw [starts, List.any_eq_true]
  constructor
  · rintro ⟨event, hmem, h⟩
    split at h
    · cases beq_iff_eq.1 h
      exact ⟨_, hmem⟩
    · cases h
  · rintro ⟨kind, hmem⟩
    exact ⟨_, hmem, beq_self_eq_true id⟩

theorem evicts_iff : e.evicts id = true ↔ .sessionEvicted id ∈ e.logged := by
  rw [evicts, List.any_eq_true]
  constructor
  · rintro ⟨event, hmem, h⟩
    split at h
    · cases beq_iff_eq.1 h
      exact hmem
    · cases h
  · exact fun hmem => ⟨_, hmem, beq_self_eq_true id⟩

/-- **A request that is not about a session** leaves it as it is, but that it may go if it was idle
too long. -/
theorem live_next (hconcerns : e.concerns id = false) (hevicts : e.evicts id = false)
    (hfirst : e.arrival.clock.first ≤ later) (hsecond : e.arrival.clock.second ≤ later) :
    live e.configuration later (e.next.stored? id) =
      live e.configuration later (e.service.stored? id) := by
  obtain ⟨hstarts, haddresses⟩ := Bool.or_eq_false_iff.1 hconcerns
  have haddresses : addressee? e.configuration e.arrival.request ≠ some id :=
    beq_eq_false_iff_ne.1 haddresses
  obtain ⟨d, hd, hresult⟩ := e.exists_deed_result
  rw [stored?_next]
  cases d with
  | nothing result =>
    rw [hresult]
    rfl
  | visit l other work result =>
    have hne : id ≠ other := fun h => haddresses (h ▸ hd.2)
    rw [hresult, outcome_visit]
    dsimp only [stored?]
    rw [SessionPool.get?_use_of_ne hne, get?_purge_eq_live hd.1, live_live hfirst]
  | remove l other =>
    have hne : id ≠ other := fun h => haddresses (h ▸ addressee?_of_delete hd.2)
    rw [hresult, outcome_remove]
    dsimp only [stored?]
    rw [SessionPool.get?_delete_of_ne hne]
    rfl
  | start l calculator unitSets =>
    have hevicts : .sessionEvicted id ∉ e.logged := fun h => by
      rw [evicts_iff.2 h] at hevicts
      cases hevicts
    have hstarts : ∀ kind, .sessionCreated id kind ∉ e.logged := fun kind h => by
      rw [starts_iff.2 ⟨kind, h⟩] at hstarts
      cases hstarts
    rw [logged_of_asks hd.2, hresult, outcome_start] at hevicts hstarts
    rw [hresult, outcome_start]
    dsimp only [stored?] at hevicts hstarts ⊢
    rw [SessionPool.get?_create_of_not_logged hevicts hstarts, get?_purge_eq_live hd.1,
      live_live hsecond]

theorem eq_of_addressee? {other : String} (hconcerns : e.concerns id = true)
    (h : addressee? e.configuration e.arrival.request = some other) : other = id := by
  rcases Bool.or_eq_true_iff.1 hconcerns with hstarts | haddresses
  · obtain ⟨kind, hmem⟩ := starts_iff.1 hstarts
    rw [addressee?_of_asks (asks_of_mem_logged hmem)] at h
    cases h
  · rw [addresses, h] at haddresses
    exact Option.some.inj (beq_iff_eq.1 haddresses)

/-- What a removal that is not late finds is live. -/
theorem stored?_eq_live (hl : limits? e.configuration = some l)
    (hd : destination e.configuration e.arrival.request = .route (.session id) .delete)
    (hlate : ¬ e.RemovesLate id) :
    e.service.stored? id = live e.configuration e.arrival.clock.first (e.service.stored? id) := by
  unfold live
  cases hs : e.service.stored? id with
  | none => rfl
  | some s =>
    have hfresh : s.expired l.ttl e.arrival.clock.first = false :=
      Bool.eq_false_iff.2 fun h => hlate ⟨hd, l, s, hl, hs, h⟩
    rw [Option.filter_some, hl]
    simp [hfresh]

/-- A session that is started is new in every respect. -/
theorem result_of_start {calculator : AnyCalculator} {unitSets : List String}
    (hasks : asksForSession e.configuration e.arrival.request = true)
    (hresult : e.result =
      outcome ((Deed.start l calculator unitSets).handler e.arrival.clock) e.service)
    (hjournal : e.service.pool.journal = []) (hconcerns : e.concerns id = true) :
    let new : Session :=
      ⟨id, calculator, unitSets, e.arrival.clock.first, e.arrival.clock.first, false⟩
    e.result.1 = .ok (.success (.obj new.describe) 201) ∧
      e.result.2.stored? id = some new := by
  have haddresses : e.addresses id = false := by
    rw [addresses, addressee?_of_asks hasks]
    rfl
  have hstarts : e.starts id = true := by
    rwa [concerns, haddresses, Bool.or_false] at hconcerns
  obtain ⟨kind, hmem⟩ := starts_iff.1 hstarts
  rw [logged_of_asks hasks, hresult, outcome_start] at hmem
  have hbefore : .sessionCreated id kind ∉
      (e.service.pool.configure l.ttl l.capacity).journal := by
    show _ ∉ e.service.pool.journal
    rw [hjournal]
    exact List.not_mem_nil
  obtain ⟨-, hok, hstored⟩ := SessionPool.create_of_logged hbefore hmem
  rw [hresult, outcome_start]
  dsimp only
  rw [hok]
  exact ⟨rfl, hstored⟩

/-- **A request that is about a session** has one and the same reply from two services that have
the same session, as far as it is live, and leaves the same. -/
theorem same_next (e e' : Exchange) (harrival : e'.arrival = e.arrival)
    (hc : e'.configuration = e.configuration)
    (hjournal : e.service.pool.journal = []) (hjournal' : e'.service.pool.journal = [])
    (hconcerns : e.concerns id = true) (hconcerns' : e'.concerns id = true)
    (hlate : ¬ e.RemovesLate id) (hlate' : ¬ e'.RemovesLate id)
    (hsame : live e.configuration e.arrival.clock.first (e'.service.stored? id) =
      live e.configuration e.arrival.clock.first (e.service.stored? id)) :
    e'.reply = e.reply ∧ ∀ later, e.arrival.clock.first ≤ later →
      live e.configuration later (e'.next.stored? id) =
        live e.configuration later (e.next.stored? id) := by
  obtain ⟨d, hd, hdeed⟩ := exists_deed e.configuration e.arrival.request
  have hresult : e.result = outcome (d.handler e.arrival.clock) e.service := hdeed _ _ rfl
  have hresult' : e'.result = outcome (d.handler e.arrival.clock) e'.service := by
    rw [result, harrival]
    exact hdeed _ _ hc
  rw [reply_eq, reply_eq, harrival, stored?_next, stored?_next]
  cases d with
  | nothing result =>
    rw [hresult, hresult']
    refine ⟨rfl, fun later hle => ?_⟩
    rw [outcome_nothing, outcome_nothing]
    exact (live_live hle _).symm.trans ((congrArg _ hsame).trans (live_live hle _))
  | visit l other work result =>
    cases eq_of_addressee? hconcerns hd.2
    have hthere : ((e'.service.pool.configure l.ttl l.capacity).purge
          e.arrival.clock.first).sessions.get? id =
        ((e.service.pool.configure l.ttl l.capacity).purge
          e.arrival.clock.first).sessions.get? id := by
      rw [get?_purge_eq_live hd.1, get?_purge_eq_live hd.1]
      exact hsame
    obtain ⟨hused, hleft⟩ := SessionPool.use_congr hthere e.arrival.clock.second work
    rw [hresult, hresult', outcome_visit, outcome_visit]
    dsimp only [stored?]
    rw [hused, hleft]
    exact ⟨rfl, fun _ _ => rfl⟩
  | remove l other =>
    cases eq_of_addressee? hconcerns (addressee?_of_delete hd.2)
    have hthere : e'.service.stored? id = e.service.stored? id := by
      rw [stored?_eq_live hd.1 hd.2 hlate, ← hsame, ← hc, ← harrival]
      refine stored?_eq_live (hc ▸ hd.1) ?_ hlate'
      rw [hc, harrival]
      exact hd.2
    obtain ⟨hremoved, hleft⟩ := SessionPool.delete_congr
      (p := e.service.pool.configure l.ttl l.capacity)
      (q := e'.service.pool.configure l.ttl l.capacity) hthere
    rw [hresult, hresult', outcome_remove, outcome_remove]
    dsimp only [stored?]
    rw [hremoved, hleft]
    exact ⟨rfl, fun _ _ => rfl⟩
  | start l calculator unitSets =>
    have hasks' : asksForSession e'.configuration e'.arrival.request = true := by
      rw [hc, harrival]
      exact hd.2
    obtain ⟨hreply, hstored⟩ := result_of_start hd.2 hresult hjournal hconcerns
    obtain ⟨hreply', hstored'⟩ :=
      result_of_start hasks' (harrival ▸ hresult') hjournal' hconcerns'
    rw [hreply, hreply', hstored, hstored', harrival]
    exact ⟨rfl, fun _ _ => rfl⟩

/-- No session is evicted where there is room for a new one, or where there are none. -/
theorem evicts_of_room (hjournal : e.service.pool.journal = [])
    (hroom : ∀ l, limits? e.configuration = some l → e.service.pool.sessions.size = 0 ∨
      (e.service.pool.sessions.size : Int) < l.capacity) : e.evicts id = false := by
  refine Bool.eq_false_iff.2 fun hevicts => ?_
  have hmem := evicts_iff.1 hevicts
  have hasks := asks_of_mem_logged hmem
  obtain ⟨d, hd, hresult⟩ := e.exists_deed_result
  rw [logged_of_asks hasks, hresult] at hmem
  rcases suits_of_asks hasks hd with ⟨result, rfl⟩ | ⟨l, calculator, unitSets, rfl⟩
  · rw [outcome_nothing, hjournal] at hmem
    cases hmem
  · rw [outcome_start] at hmem
    exact SessionPool.not_evicted_of_room
      (p := e.service.pool.configure l.ttl l.capacity) (hroom l hd.1) hjournal hmem

/-- A request for a session adds at most one. -/
theorem size_next_le (hasks : asksForSession e.configuration e.arrival.request = true) :
    e.next.pool.sessions.size ≤ e.service.pool.sessions.size + 1 := by
  obtain ⟨d, hd, hresult⟩ := e.exists_deed_result
  show e.result.2.pool.sessions.size ≤ _
  rcases suits_of_asks hasks hd with ⟨result, rfl⟩ | ⟨l, calculator, unitSets, rfl⟩
  · rw [hresult, outcome_nothing]
    exact Nat.le_succ _
  · rw [hresult, outcome_start]
    exact SessionPool.size_create_le (e.service.pool.configure l.ttl l.capacity) ..

/-- **A request for a session that is made again** starts a session under the next id but one, if it
starts one. -/
theorem starts_again {e' : Exchange} (hservice : e'.service = e.next)
    (hrequest : e'.arrival.request = e.arrival.request)
    (hasks : asksForSession e.configuration e.arrival.request = true)
    (hid : e.service.idOf (e.service.started + 2) ≠ id) : e'.starts id = false := by
  have hc : e'.configuration = e.configuration := by
    rw [configuration, hservice]
    exact configuration_next e
  have hasks' : asksForSession e'.configuration e'.arrival.request = true := by
    rw [hc, hrequest]
    exact hasks
  obtain ⟨d, hd, hdeed⟩ := exists_deed e.configuration e.arrival.request
  have hresult : e.result = outcome (d.handler e.arrival.clock) e.service := hdeed _ _ rfl
  have hresult' : e'.result = outcome (d.handler e'.arrival.clock) e'.service := by
    rw [result, hrequest]
    exact hdeed _ _ hc
  have hjournal : e'.service.pool.journal = [] := by
    rw [hservice]
    exact journal_next e
  refine Bool.eq_false_iff.2 fun hstarts => ?_
  obtain ⟨kind, hmem⟩ := starts_iff.1 hstarts
  rw [logged_of_asks hasks', hresult'] at hmem
  rcases suits_of_asks hasks hd with ⟨result, rfl⟩ | ⟨l, calculator, unitSets, rfl⟩
  · rw [outcome_nothing, hjournal] at hmem
    cases hmem
  · rw [outcome_start] at hmem
    have hbefore : .sessionCreated id kind ∉
        (e'.service.pool.configure l.ttl l.capacity).journal := by
      show _ ∉ e'.service.pool.journal
      rw [hjournal]
      exact List.not_mem_nil
    obtain ⟨hgiven, -⟩ := SessionPool.create_of_logged hbefore hmem
    -- one session more was started before
    have hstarted : e'.service.started = e.service.started + 1 ∧
        e'.service.idOf = e.service.idOf := by
      rw [hservice]
      show e.result.2.started = _ ∧ e.result.2.idOf = _
      rw [hresult, outcome_start]
      exact ⟨rfl, rfl⟩
    rw [hstarted.1, hstarted.2] at hgiven
    exact hid hgiven

/-- Where no session is asked for, none is started or evicted. -/
theorem of_not_asks (h : asksForSession e.configuration e.arrival.request = false) :
    e.starts id = false ∧ e.evicts id = false := by
  have hlogged : e.logged = [] := if_neg (Bool.eq_false_iff.1 h)
  unfold starts evicts
  rw [hlogged]
  exact ⟨rfl, rfl⟩

end Exchange

end Service
end QuantityCalculus
