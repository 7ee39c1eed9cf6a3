/-
# Removing a session that expired

To a client a session that was idle for longer than the time to live is gone: it can neither be
looked up nor be worked with. Removing it looks at the table of sessions without looking at the
clock, so it succeeds as long as no other request has made the pool drop the session, and a client
is told that a session was removed that the same client could not have used.

**Main statement.** `seenAt_of_reached`.
-/

import QuantityCalculus.Proofs.Service.Deeds
import QuantityCalculus.Proofs.Session.Expiry

namespace QuantityCalculus
namespace Service

open SessionPool

variable {service : Service} {r : Request} {l : Limits} {id : String} {clock : Clock}

/-! ### The two routes of a session -/

/-- What a handler does that limits the sessions first, where the settings give limits. -/
theorem outcome_limited (hl : limits? service.configuration = some l) (h : Handler Reply) :
    outcome (settings >>= fun s => limitSessions s >>= fun _ => h) service =
      outcome (limit l >>= fun _ => h) service := by
  unfold limits? at hl
  split at hl
  · rename_i s hs
    obtain ⟨ttl, hspan, hl⟩ := Option.map_eq_some_iff.1 hl
    have hok : Span.ofMinutes s.idleMinutes = .ok ttl := by
      cases hspan' : Span.ofMinutes s.idleMinutes with
      | ok span =>
        rw [hspan'] at hspan
        cases hspan
        rfl
      | error fault =>
        rw [hspan'] at hspan
        cases hspan
    have hread := reads_settings service rfl
    rw [hs] at hread
    refine (outcome_bind_ok hread).trans ?_
    unfold limitSessions
    simp only [hok, ← hl]
    rfl
  · cases hl

theorem serve_delete (hl : limits? service.configuration = some l)
    (hr : destination service.configuration r = .route (.session id) .delete) :
    service.serve clock r = outcome ((Deed.remove l id).handler clock) service := by
  unfold serve
  rw [hr]
  exact outcome_limited hl (Service.remove id)

/-- Whoever asks for a session that is not found is told so. -/
theorem serve_session (hl : limits? service.configuration = some l)
    (hr : destination service.configuration r = .route (.session id) .get)
    (hnone : ∀ {β : Type} (work : Session → Except Fault β × AnyCalculator),
      ((service.pool.configure l.ttl l.capacity).use id clock.second work clock.first).1 =
        .error .notFound) :
    (service.serve clock r).1 = .error (noSession id) := by
  have hvisit : service.serve clock r =
      outcome ((Deed.visit l id (fun s => (.ok s.describe, s.calculator)) fun x =>
        (x.map fun members => .success (.obj members)).mapError fun _ => hidden).handler clock)
        service := by
    unfold serve
    rw [hr]
    refine (outcome_limited hl _).trans
      (congrArg (outcome · service) (handler_visit l id clock fun x => ?_).symm)
    cases x <;> rfl
  rw [hvisit, outcome_visit]
  dsimp only
  rw [hnone]

/-! ### What clients see -/

/-- What the operations of a pool and the replies to clients tell of sessions that were idle for
longer than the time to live, at a reading of the clock. -/
structure SeenAt (d : Dated) (now : Instant) : Prop where
  /-- No session was last used after the reading. -/
  past : ∀ id s, d.pool.sessions.get? id = some s → s.accessed ≤ now
  /-- A session is removed if it would be found, and also while it is overdue. -/
  removed : ∀ id, (d.pool.delete id).1 = true ↔
    (d.pool.get id now).1.isSome = true ∨ d.pool.Overdue id now
  /-- An overdue session is found neither by looking it up nor by working with it. -/
  notFound : ∀ id, d.pool.Overdue id now → (d.pool.get id now).1 = none ∧
    ∀ {β : Type} (work : Session → Except Fault β × AnyCalculator),
      (d.pool.use id now work).1 = .error .notFound
  /-- So removing and looking up agree about every session but an overdue one. -/
  agree : ∀ id, ((d.pool.delete id).1 = true ↔ (d.pool.get id now).1.isSome = true) ↔
    ¬ d.pool.Overdue id now
  /-- From then on an overdue session is never found again, and it can be removed exactly until an
  operation looks at the clock, whichever session that one is about. -/
  later : ∀ id, d.pool.Overdue id now → ∀ cs d', Dated.Run cs ⟨d.pool, now⟩ d' →
    (∀ c ∈ cs, c.Spares id d.pool.ttl) →
      (∀ reading, d'.reading ≤ reading → (d'.pool.get id reading).1 = none) ∧
        ((d'.pool.delete id).1 = true ↔ ∀ c ∈ cs, c.looks = false)
  /-- A client who removes a session is told that there is none exactly if it would not be found
  and is not overdue; one who asks for an overdue session is told that there is none. -/
  replies : ∀ (service : Service) l, limits? service.configuration = some l →
    service.pool.configure l.ttl l.capacity = d.pool → ∀ id r,
      (destination service.configuration r = .route (.session id) .delete → ∀ clock,
        ((service.serve clock r).1 = .error (noSession id) ↔
          (d.pool.get id now).1 = none ∧ ¬ d.pool.Overdue id now)) ∧
      (destination service.configuration r = .route (.session id) .get →
        d.pool.Overdue id now → ∀ second,
          (service.serve ⟨now, second⟩ r).1 = .error (noSession id))

/-- **Expiry as it is seen** in every pool that operations lead to with a clock that never goes
backwards, at every later reading of the clock. -/
theorem seenAt_of_reached {d : Dated} (hd : d.Reached) {now : Instant} (hnow : d.reading ≤ now) :
    SeenAt d now := by
  have hremoved (id : String) := delete_iff d.pool id now now
  refine ⟨fun id s hs => Int.le_trans (hd.past id s hs) hnow, hremoved,
    fun id h => h.not_found now, fun id => ?_, fun id h cs d' run hspares => ?_,
    fun service l hl hpool id r => ⟨fun hr clock => ?_, fun hr h second => ?_⟩⟩
  · constructor
    · intro hiff h
      have hfound := hiff.1 ((hremoved id).2 (.inr h))
      rw [(h.not_found now).1] at hfound
      cases hfound
    · intro h
      rw [hremoved id, or_iff_left h]
  · exact run.overdue hspares ⟨h, Int.le_refl _⟩
  · rw [serve_delete hl hr, outcome_remove, hpool, ← Option.not_isSome_iff_eq_none, ← not_or,
      ← hremoved id]
    cases hdelete : (d.pool.delete id).1 <;> simp [hdelete]
  · refine serve_session hl hr fun work => ?_
    rw [hpool]
    exact (h.not_found second).2 work

/-- A pool with a session that is not used again. -/
def waiting : Dated :=
  ⟨(SessionPool.create { ttl := 100 } "a" (.real { settings := {} }) [] 0).2, 0⟩

theorem reached_waiting : waiting.Reached :=
  ⟨100, 256, 0, [.starting "a"],
    .cons (.create "a" _ [] (Int.le_refl _) (Int.le_refl _)) .nil⟩

theorem overdue_waiting : waiting.pool.Overdue "a" 101 := ⟨_, rfl, by decide⟩

/-- The session is found no more, but it is removed, unless someone else has asked for a session of
theirs in between. -/
theorem seenAt_waiting :
    waiting.Reached ∧ waiting.reading ≤ 101 ∧ waiting.pool.Overdue "a" 101 ∧
      (waiting.pool.get "a" 101).1 = none ∧ (waiting.pool.delete "a").1 = true ∧
      ((waiting.pool.get "b" 101).2.delete "a").1 = false := by
  have hnow : waiting.reading ≤ 101 := by decide
  have hseen := seenAt_of_reached reached_waiting hnow
  refine ⟨reached_waiting, hnow, overdue_waiting, (hseen.notFound "a" overdue_waiting).1,
    (hseen.removed "a").2 (.inr overdue_waiting), ?_⟩
  have hrun : Dated.Run [.visiting "b"] ⟨waiting.pool, 101⟩ ⟨(waiting.pool.get "b" 101).2, 101⟩ :=
    .cons (.get "b" (Int.le_refl _) (Int.le_refl _)) .nil
  have hlater := hseen.later "a" overdue_waiting _ _ hrun fun c hc => by
    cases List.mem_singleton.1 hc
    trivial
  rw [Bool.eq_false_iff, ne_eq, hlater.2]
  exact fun hblind => nomatch hblind (.visiting "b") (List.mem_singleton.2 rfl)

/-- **Removing tells of a session that looking up does not find**: the two do not agree at a
reading of the clock at which a stored session has expired. -/
theorem delete_disagrees_waiting :
    waiting.Reached ∧ waiting.reading ≤ 101 ∧
      ¬ ((waiting.pool.delete "a").1 = true ↔ (waiting.pool.get "a" 101).1.isSome = true) := by
  refine ⟨reached_waiting, by decide, fun hiff => ?_⟩
  have hfound := hiff.1 rfl
  rw [(overdue_waiting.not_found 101).1] at hfound
  cases hfound

end Service
end QuantityCalculus
