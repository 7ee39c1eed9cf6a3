/-
# Sessions are isolated from one another

Clients send requests to a service one after the other, and a session lives among others. What the
service replies to those who start or address it is up to their requests and to the clock at these:
whatever else is asked for in between, the replies are the same.

**Main statements.** `Undisturbed.exists_first` for the part of a run up to the next request that is
about the session, `Undisturbed.repliesTo_eq` for two runs that go on from services with the same
session, and `repliesTo_eq_of_concerning_eq` for whole runs.
-/

import QuantityCalculus.Proofs.Service.Exchange

namespace QuantityCalculus
namespace Service

/-! ### Runs -/

/-- What becomes of requests that a service answers one after the other. -/
def exchanges (service : Service) : List Arrival → List Exchange
  | [] => []
  | a :: as => ⟨service, a⟩ :: exchanges (Exchange.next ⟨service, a⟩) as

/-- What the clock says, reading after reading. -/
def readings (as : List Arrival) : List Instant :=
  as.flatMap fun a => [a.clock.first, a.clock.second]

/-- The requests that are about a session, with the clock as it stands at each of them. -/
def concerning (id : String) (es : List Exchange) : List Arrival :=
  (es.filter (·.concerns id)).map (·.arrival)

/-- The replies to the requests that are about a session. -/
def repliesTo (id : String) (es : List Exchange) : List Reply :=
  (es.filter (·.concerns id)).map (·.reply)

variable {c : Configuration} {id : String} {service service' : Service} {a : Arrival}
  {as as' rest : List Arrival}

theorem concerning_cons (e : Exchange) (es : List Exchange) :
    concerning id (e :: es) =
      if e.concerns id then e.arrival :: concerning id es else concerning id es := by
  unfold concerning
  rw [List.filter_cons, apply_ite (List.map _)]
  rfl

theorem repliesTo_cons (e : Exchange) (es : List Exchange) :
    repliesTo id (e :: es) =
      if e.concerns id then e.reply :: repliesTo id es else repliesTo id es := by
  unfold repliesTo
  rw [List.filter_cons, apply_ite (List.map _)]
  rfl

/-- A run with a clock that never goes back, in which the session under an id is never evicted,
and never removed after it was idle too long. -/
structure Undisturbed (c : Configuration) (id : String) (service : Service) (as : List Arrival) :
    Prop where
  configuration : service.configuration = c
  journal : service.pool.journal = []
  clock : (readings as).Pairwise (· ≤ ·)
  kept : ∀ e ∈ exchanges service as, e.Spares id

namespace Undisturbed

theorem first_mem (a : Arrival) (as : List Arrival) : a.clock.first ∈ readings (a :: as) :=
  List.mem_cons_self ..

theorem mem_readings_cons {t : Instant} (h : t ∈ readings as) : t ∈ readings (a :: as) :=
  List.mem_cons_of_mem _ (List.mem_cons_of_mem _ h)

/-- The rest of a run is undisturbed as well. -/
theorem tail (h : Undisturbed c id service (a :: as)) :
    Undisturbed c id (Exchange.next ⟨service, a⟩) as where
  configuration := (Exchange.configuration_next ⟨service, a⟩).trans h.configuration
  journal := rfl
  clock := (List.pairwise_cons.1 (List.pairwise_cons.1 h.clock).2).2
  kept := fun e he => h.kept e (List.mem_cons_of_mem _ he)

/-- What the clock says later in a run is not before what it says at the first request. -/
theorem le_of_mem (h : Undisturbed c id service (a :: as)) {t : Instant} (ht : t ∈ readings as) :
    a.clock.first ≤ t ∧ a.clock.second ≤ t := by
  obtain ⟨hfirst, hrest⟩ := List.pairwise_cons.1 h.clock
  exact ⟨hfirst t (List.mem_cons_of_mem _ ht), (List.pairwise_cons.1 hrest).1 t ht⟩

/-- **Up to the first request that is about a session** the session stays, but that it may go once
it was idle too long. -/
theorem exists_first (h : Undisturbed c id service as)
    (hrest : concerning id (exchanges service as) = a :: rest) :
    ∃ (before : Service) (bs : List Arrival), Undisturbed c id before (a :: bs) ∧
      (⟨before, a⟩ : Exchange).concerns id = true ∧
      concerning id (exchanges (Exchange.next ⟨before, a⟩) bs) = rest ∧
      repliesTo id (exchanges service as) = Exchange.reply ⟨before, a⟩ ::
        repliesTo id (exchanges (Exchange.next ⟨before, a⟩) bs) ∧
      ∀ t ∈ readings (a :: bs), t ∈ readings as ∧
        live c t (before.stored? id) = live c t (service.stored? id) := by
  induction as generalizing service with
  | nil => cases hrest
  | cons b as ih =>
    cases hb : (⟨service, b⟩ : Exchange).concerns id with
    | true =>
      rw [exchanges, concerning_cons, if_pos hb] at hrest
      obtain ⟨rfl, htail⟩ : b = a ∧ _ := List.cons.inj hrest
      refine ⟨service, as, h, hb, htail, ?_, fun t ht => ⟨ht, rfl⟩⟩
      rw [exchanges, repliesTo_cons, if_pos hb]
    | false =>
      have hneg : ¬ (⟨service, b⟩ : Exchange).concerns id = true := Bool.not_eq_true _ ▸ hb
      rw [exchanges, concerning_cons, if_neg hneg] at hrest
      obtain ⟨before, bs, hbefore, ha, hbs, hreplies, hlive⟩ := ih h.tail hrest
      refine ⟨before, bs, hbefore, ha, hbs, ?_, fun t ht => ?_⟩
      · rw [exchanges, repliesTo_cons, if_neg hneg]
        exact hreplies
      · obtain ⟨hmem, ht⟩ := hlive t ht
        obtain ⟨hfirst, hsecond⟩ := h.le_of_mem hmem
        have hstays := Exchange.live_next hb (h.kept _ (List.mem_cons_self ..)).evicts hfirst hsecond
        rw [show Exchange.configuration ⟨service, b⟩ = c from h.configuration] at hstays
        exact ⟨mem_readings_cons hmem, ht.trans hstays⟩

/-- **Two runs that agree on the requests about a session** agree on the replies to them, if they
begin with the same session, as far as it is live. -/
theorem repliesTo_eq (h : Undisturbed c id service as) (h' : Undisturbed c id service' as')
    (hsame : concerning id (exchanges service as) = concerning id (exchanges service' as'))
    (hlive : ∀ t ∈ readings as, t ∈ readings as' →
      live c t (service'.stored? id) = live c t (service.stored? id)) :
    repliesTo id (exchanges service as) = repliesTo id (exchanges service' as') := by
  -- by induction on the requests that they agree on, up to the first of which both runs go
  generalize hrequests : concerning id (exchanges service as) = requests at hsame
  induction requests generalizing service service' as as' with
  | nil =>
    rw [repliesTo, repliesTo, List.map_eq_nil_iff.1 hrequests, List.map_eq_nil_iff.1 hsame.symm]
  | cons a rest ih =>
    obtain ⟨before, bs, hbefore, ha, hbs, hreplies, hup⟩ := h.exists_first hrequests
    obtain ⟨before', bs', hbefore', ha', hbs', hreplies', hup'⟩ := h'.exists_first hsame.symm
    have hc : Exchange.configuration ⟨before, a⟩ = c := hbefore.configuration
    have hthere {t : Instant} (ht : t ∈ readings (a :: bs)) (ht' : t ∈ readings (a :: bs')) :
        live c t (before'.stored? id) = live c t (before.stored? id) := by
      rw [(hup t ht).2, (hup' t ht').2]
      exact hlive t (hup t ht).1 (hup' t ht').1
    obtain ⟨hreply, hleft⟩ := Exchange.same_next ⟨before, a⟩ ⟨before', a⟩ rfl
      (hbefore'.configuration.trans hc.symm) hbefore.journal hbefore'.journal ha ha'
      (hbefore.kept _ (List.mem_cons_self ..)).removes (hbefore'.kept _ (List.mem_cons_self ..)).removes
      (hc ▸ hthere (first_mem a bs) (first_mem a bs'))
    rw [hreplies, hreplies', hreply]
    refine congrArg _ (ih hbefore.tail hbefore'.tail (fun t ht _ => ?_) hbs hbs'.symm)
    exact hc ▸ hleft t (hbefore.le_of_mem ht).1

end Undisturbed

/-- Where no session is asked for, the requests about a session are those that address it. -/
theorem concerning_of_not_asks (hc : service.configuration = c)
    (h : ∀ a ∈ as, asksForSession c a.request = false) :
    concerning id (exchanges service as) = as.filter fun a => addressee? c a.request == some id := by
  induction as generalizing service with
  | nil => rfl
  | cons a as ih =>
    have hhere : Exchange.configuration ⟨service, a⟩ = c := hc
    have hnext := (Exchange.configuration_next ⟨service, a⟩).trans hhere
    have hasks : asksForSession (Exchange.configuration ⟨service, a⟩) a.request = false :=
      hhere.symm ▸ h a (List.mem_cons_self ..)
    have hconcerns : (⟨service, a⟩ : Exchange).concerns id =
        (addressee? c a.request == some id) := by
      rw [Exchange.concerns, (Exchange.of_not_asks hasks).1, Bool.false_or, Exchange.addresses,
        hhere]
    rw [exchanges, concerning_cons, hconcerns, List.filter_cons,
      ih hnext fun b hb => h b (List.mem_cons_of_mem _ hb)]

/-- Where no session is asked for or removed, a run is undisturbed. -/
theorem kept_of_not_asks (hc : service.configuration = c)
    (h : ∀ a ∈ as, asksForSession c a.request = false ∧
      destination c a.request ≠ .route (.session id) .delete) :
    ∀ e ∈ exchanges service as, e.Spares id := by
  induction as generalizing service with
  | nil => exact fun e he => nomatch he
  | cons a as ih =>
    have hhere : Exchange.configuration ⟨service, a⟩ = c := hc
    have hnext := (Exchange.configuration_next ⟨service, a⟩).trans hhere
    obtain ⟨hasks, hremoves⟩ := h a (List.mem_cons_self ..)
    rw [← hhere] at hasks hremoves
    intro e he
    rcases List.mem_cons.1 he with rfl | he
    · exact ⟨(Exchange.of_not_asks hasks).2, fun hlate => hremoves hlate.1⟩
    · exact ih hnext (fun b hb => h b (List.mem_cons_of_mem _ hb)) e he

/-- **Sessions are isolated from one another.** Two runs of one configuration, with clocks that
never go back, that agree on the requests that start or address the session under an id and on the
clock at these, agree on the replies to them, if the session is never evicted nor removed after it
was idle too long, whatever other ids are given and whatever else is asked for. -/
theorem repliesTo_eq_of_concerning_eq (c : Configuration) (id : String) (idOf idOf' : Nat → String)
    (as as' : List Arrival) (hclock : (readings as).Pairwise (· ≤ ·))
    (hclock' : (readings as').Pairwise (· ≤ ·))
    (hkept : ∀ e ∈ exchanges { configuration := c, idOf } as,
      e.Spares id)
    (hkept' : ∀ e ∈ exchanges { configuration := c, idOf := idOf' } as',
      e.Spares id)
    (hsame : concerning id (exchanges { configuration := c, idOf } as) =
      concerning id (exchanges { configuration := c, idOf := idOf' } as')) :
    repliesTo id (exchanges { configuration := c, idOf } as) =
      repliesTo id (exchanges { configuration := c, idOf := idOf' } as') :=
  Undisturbed.repliesTo_eq ⟨rfl, rfl, hclock, hkept⟩ ⟨rfl, rfl, hclock', hkept'⟩ hsame
    fun _ _ _ => rfl

/-- A configuration in which nothing is set. -/
def unset : Configuration :=
  { site := .obj [], settings := .obj [], enabled := true, summary := none
    bodyLimit := Configuration.standardLimit, traced := false }

/-- A request for a new session. -/
def requestStart : Request := { method := "POST", target := "/api/unit_calculator/sessions" }

/-- A request for what the session under an id has. -/
def requestLook (id : String) : Request :=
  { method := "GET", target := "/api/unit_calculator/sessions/" ++ id }

/-- The id of the first session. -/
def firstId : String := SessionPool.idOf 1

/-- The id of the second session. -/
def secondId : String := SessionPool.idOf 2

/-- What is asked of the service in one run but not in the other: an evaluation, one in the second
session, a bad request and the removal of that session. -/
def requestsBeside : List Request := [
  { method := "POST", target := "/api/unit_calculator/evaluate"
    body := "\x7b\"expression\": \"x = 2\"\x7d" },
  { method := "POST", target := "/api/unit_calculator/evaluate"
    body := "\x7b\"expression\": \"x = 2\", \"session_id\": \"" ++ secondId ++ "\"\x7d" },
  { method := "POST", target := "/api/unit_calculator/sessions/" ++ secondId ++ "/units/input"
    body := "[1" },
  { method := "DELETE", target := "/api/unit_calculator/sessions/" ++ secondId }]

/-- The exchange in which the first session is asked for. -/
def startFirst : Exchange := ⟨{ configuration := unset }, ⟨⟨0, 0⟩, requestStart⟩⟩

/-- The exchange in which the second session is asked for. -/
def startSecond : Exchange := ⟨startFirst.next, ⟨⟨2, 3⟩, requestStart⟩⟩

/-- Requests with a look at the first session behind them. -/
def lookAfter (between : List Request) : List Arrival :=
  (between.map fun r => ⟨⟨4, 4⟩, r⟩) ++ [⟨⟨9, 9⟩, requestLook firstId⟩]

/-- The first session is started and looked at. -/
def runAlone : List Arrival := startFirst.arrival :: lookAfter []

/-- The same beside a second session. -/
def runBeside : List Arrival :=
  startFirst.arrival :: startSecond.arrival :: lookAfter requestsBeside

theorem configuration_next_startFirst : startFirst.next.configuration = unset :=
  Exchange.configuration_next startFirst

theorem configuration_startSecond : startSecond.configuration = unset := by
  rw [Exchange.configuration, startSecond]
  exact configuration_next_startFirst

theorem capacity_unset {l : Limits} (h : limits? unset = some l) : l.capacity = 256 := by
  obtain ⟨s, hs, hcapacity⟩ : ∃ s, settingsOf unset = .ok s ∧ s.capacity = 256 := ⟨_, rfl, rfl⟩
  rw [limits?, hs] at h
  obtain ⟨ttl, -, rfl⟩ := Option.map_eq_some_iff.1 h
  exact hcapacity

theorem asks_startFirst :
    asksForSession startFirst.configuration startFirst.arrival.request = true := by
  decide +kernel

/-- The second request for a session is not about the first one. -/
theorem concerns_startSecond : startSecond.concerns firstId = false := by
  have haddressee : addressee? unset requestStart = none := addressee?_of_asks asks_startFirst
  have haddresses : startSecond.addresses firstId = false := by
    rw [Exchange.addresses, configuration_startSecond]
    show (addressee? unset requestStart == some firstId) = false
    rw [haddressee]
    rfl
  rw [Exchange.concerns, haddresses, Bool.or_false]
  exact Exchange.starts_again rfl rfl asks_startFirst (by decide +kernel)

theorem spares_startFirst : startFirst.Spares firstId where
  evicts := Exchange.evicts_of_room rfl fun _ _ => .inl rfl
  removes hlate := absurd hlate.1 (by decide +kernel)

theorem spares_startSecond : startSecond.Spares firstId where
  evicts := by
    refine Exchange.evicts_of_room (Exchange.journal_next startFirst) fun l hl => .inr ?_
    have hsize : startSecond.service.pool.sessions.size ≤ 1 :=
      Exchange.size_next_le asks_startFirst
    rw [configuration_startSecond] at hl
    rw [capacity_unset hl]
    omega
  removes hlate := by
    have hdelete := hlate.1
    rw [configuration_startSecond] at hdelete
    exact absurd hdelete (by decide +kernel)

/-- After requests that neither ask for a session nor address the first one, it is looked at. -/
theorem concerning_lookAfter (hc : service.configuration = unset) {between : List Request}
    (h : ∀ r ∈ between, asksForSession unset r = false ∧ addressee? unset r ≠ some firstId) :
    concerning firstId (exchanges service (lookAfter between)) =
        [⟨⟨9, 9⟩, requestLook firstId⟩] ∧
      ∀ e ∈ exchanges service (lookAfter between), e.Spares firstId := by
  have hlook : (addressee? unset (requestLook firstId) == some firstId) = true := by decide +kernel
  have hnone : (between.map fun r => (⟨⟨4, 4⟩, r⟩ : Arrival)).filter
      (fun a => addressee? unset a.request == some firstId) = [] := by
    refine List.filter_eq_nil_iff.2 fun a ha => ?_
    obtain ⟨r, hr, rfl⟩ := List.mem_map.1 ha
    exact fun heq => (h r hr).2 (beq_iff_eq.1 heq)
  have hothers : ∀ a ∈ lookAfter between, asksForSession unset a.request = false ∧
      destination unset a.request ≠ .route (.session firstId) .delete := by
    intro a ha
    rcases List.mem_append.1 ha with ha | ha
    · obtain ⟨r, hr, rfl⟩ := List.mem_map.1 ha
      exact ⟨(h r hr).1, fun hd => (h r hr).2 (addressee?_of_delete hd)⟩
    · cases List.mem_singleton.1 ha
      decide +kernel
  refine ⟨?_, kept_of_not_asks hc hothers⟩
  rw [concerning_of_not_asks hc fun a ha => (hothers a ha).1, lookAfter, List.filter_append, hnone,
    List.nil_append, List.filter_cons, if_pos hlook, List.filter_nil]

/-- What happens beside it changes nothing for the first session. -/
theorem repliesTo_eq_beside :
    let alone := exchanges { configuration := unset } runAlone
    let beside := exchanges { configuration := unset } runBeside
    ((∀ e ∈ alone, e.Spares firstId) ∧ ∀ e ∈ beside, e.Spares firstId) ∧
      concerning firstId alone = concerning firstId beside ∧
      repliesTo firstId alone = repliesTo firstId beside := by
  intro alone beside
  have hbeside : ∀ r ∈ requestsBeside,
      asksForSession unset r = false ∧ addressee? unset r ≠ some firstId := by
    decide +kernel
  have hnothing : ∀ r ∈ ([] : List Request),
      asksForSession unset r = false ∧ addressee? unset r ≠ some firstId :=
    fun r hr => by cases hr
  have hnext : startSecond.next.configuration = unset :=
    (Exchange.configuration_next startSecond).trans configuration_startSecond
  obtain ⟨hlook, hkept⟩ := concerning_lookAfter configuration_next_startFirst hnothing
  obtain ⟨hlook', hkept'⟩ := concerning_lookAfter hnext hbeside
  have halone : ∀ e ∈ alone, e.Spares firstId :=
    List.forall_mem_cons.2 ⟨spares_startFirst, hkept⟩
  have hall : ∀ e ∈ beside, e.Spares firstId :=
    List.forall_mem_cons.2 ⟨spares_startFirst,
      List.forall_mem_cons.2 ⟨spares_startSecond, hkept'⟩⟩
  have hsame : concerning firstId alone = concerning firstId beside := by
    show concerning firstId (startFirst :: exchanges startFirst.next (lookAfter [])) =
      concerning firstId
        (startFirst :: startSecond :: exchanges startSecond.next (lookAfter requestsBeside))
    rw [concerning_cons, concerning_cons, concerning_cons, concerns_startSecond, hlook, hlook']
    rfl
  exact ⟨⟨halone, hall⟩, hsame, repliesTo_eq_of_concerning_eq unset firstId SessionPool.idOf
    SessionPool.idOf runAlone runBeside (by decide +kernel) (by decide +kernel) halone hall hsame⟩

end Service
end QuantityCalculus
