/-
# Idle sessions that are still stored

A session that was idle for longer than the time to live stays in the pool until an operation
looks at the clock. Starting a session, looking one up and working with one do so, and drop it;
removing a session, clearing the pool and changing its limits do not. The clock never goes
backwards, so a session that is overdue stays overdue as long as nothing is started under its id
and the time to live does not grow.

**Main statements.** `delete_iff` and `Overdue.not_found`: what removing and looking up see of an
overdue session; `Dated.Run.past`: no last access is in the future; `Dated.Run.overdue`: what is
left of an overdue session after a run.
-/

import QuantityCalculus.Proofs.Session.Single

namespace QuantityCalculus
namespace SessionPool

variable {p : SessionPool} {id : String} {s : Session} {now purging : Instant}

/-- The session under an id is stored although it was idle for longer than the time to live. -/
def Overdue (p : SessionPool) (id : String) (now : Instant) : Prop :=
  ∃ s, p.sessions.get? id = some s ∧ s.expired p.ttl now = true

/-! ### What the operations see -/

theorem get_isSome_iff (p : SessionPool) (id : String) (now purging : Instant) :
    (p.get id now purging).1.isSome = true ↔
      ∃ s, p.sessions.get? id = some s ∧ s.expired p.ttl purging = false := by
  have h := get?_purge p purging id
  unfold get
  cases hs : p.sessions.get? id with
  | none =>
    rw [hs, Option.filter_none] at h
    simp [h]
  | some s =>
    rw [hs] at h
    cases he : s.expired p.ttl purging <;> simp [h, he, Option.filter]

/-- **Removing finds what is stored**: a session that can be looked up, or an overdue one. -/
theorem delete_iff (p : SessionPool) (id : String) (now purging : Instant) :
    (p.delete id).1 = true ↔
      (p.get id now purging).1.isSome = true ∨ p.Overdue id purging := by
  have hdelete : (p.delete id).1 = (p.sessions.get? id).isSome := by
    unfold delete Table.contains
    cases p.sessions.get? id <;> rfl
  rw [get_isSome_iff, hdelete, Option.isSome_iff_exists]
  constructor
  · rintro ⟨s, hs⟩
    cases he : s.expired p.ttl purging with
    | false => exact .inl ⟨s, hs, he⟩
    | true => exact .inr ⟨s, hs, he⟩
  · rintro (⟨s, hs, -⟩ | ⟨s, hs, -⟩) <;> exact ⟨s, hs⟩

namespace Overdue

/-- Purging drops an overdue session. -/
theorem get?_purge_eq_none (h : p.Overdue id purging) :
    (p.purge purging).sessions.get? id = none := by
  obtain ⟨s, hs, he⟩ := h
  simp [SessionPool.get?_purge, hs, he, Option.filter]

/-- **An overdue session is not found**, neither to be looked up nor to be worked with. -/
theorem not_found (h : p.Overdue id purging) (now : Instant) :
    (p.get id now purging).1 = none ∧
      ∀ {β : Type} (work : Session → Except Fault β × AnyCalculator),
        (p.use id now work purging).1 = .error .notFound := by
  refine ⟨?_, fun work => use_of_none h.get?_purge_eq_none now work⟩
  simp [get, h.get?_purge_eq_none]

/-- An overdue session stays overdue, also under a shorter time to live. -/
theorem mono {q : SessionPool} {later : Instant} (h : p.Overdue id now)
    (hs : q.sessions.get? id = p.sessions.get? id) (httl : q.ttl ≤ p.ttl) (hl : now ≤ later) :
    q.Overdue id later := by
  obtain ⟨s, hp, he⟩ := h
  refine ⟨s, hs.trans hp, decide_eq_true ?_⟩
  have he : p.ttl < now - s.accessed := of_decide_eq_true he
  exact Int.lt_of_le_of_lt httl (Int.lt_of_lt_of_le he (Int.sub_le_sub_right hl s.accessed))

end Overdue

/-! ### Sessions that the operations leave -/

theorem get?_of_get?_purge (h : (p.purge now).sessions.get? id = some s) :
    p.sessions.get? id = some s := by
  rw [get?_purge, Option.filter_eq_some_iff] at h
  exact h.1

theorem get?_of_get?_evict {rounds : Nat} {p : SessionPool}
    (h : (evict rounds p).sessions.get? id = some s) : p.sessions.get? id = some s := by
  induction rounds generalizing p with
  | zero => exact h
  | succ rounds ih =>
    rw [evict] at h
    split at h
    · exact h
    · split at h
      · exact h
      · rename_i m hm
        have herase := ih h
        simp only [record, Table.get?_erase] at herase
        split at herase
        · cases herase
        · exact herase

/-- A session that is stored after one was started is the new one or was stored before, and it
was not idle too long. -/
theorem get?_create {other : String} {calculator : AnyCalculator} {unitSets : List String}
    (h : (p.create other calculator unitSets now purging).2.sessions.get? id = some s) :
    (other = id ∧ s.accessed = now) ∨ (p.purge purging).sessions.get? id = some s := by
  rcases create_cases p other calculator unitSets now purging with ⟨m, hc⟩ | hc <;>
    rw [hc] at h
  · exact .inr (get?_of_get?_evict h)
  · simp only [Table.get?_insert] at h
    split at h
    · rename_i hid
      cases h
      exact .inl ⟨hid, rfl⟩
    · exact .inr (get?_of_get?_evict h)

/-- A session that is stored after one was looked up was stored before, and it was not idle too
long. -/
theorem get?_get {other : String}
    (h : (p.get other now purging).2.sessions.get? id = some s) :
    ∃ t, (p.purge purging).sessions.get? id = some t ∧ (s.accessed = now ∨ s = t) := by
  unfold get at h
  cases ho : (p.purge purging).sessions.get? other with
  | none =>
    simp only [ho] at h
    exact ⟨s, h, .inr rfl⟩
  | some t =>
    simp only [ho, Table.get?_insert] at h
    split at h
    · rename_i hid
      cases h
      exact ⟨t, hid ▸ ho, .inl rfl⟩
    · exact ⟨s, h, .inr rfl⟩

/-- Working with a session leaves stored what looking it up leaves. -/
theorem get?_use {β : Type} {other : String}
    {work : Session → Except Fault β × AnyCalculator}
    (h : (p.use other now work purging).2.sessions.get? id = some s) :
    ∃ t, (p.get other now purging).2.sessions.get? id = some t ∧ s.accessed = t.accessed := by
  unfold use at h
  rcases hg : p.get other now purging with ⟨_ | found, q⟩
  · simp only [hg] at h
    exact ⟨s, h, rfl⟩
  · simp only [hg, Table.get?_insert] at h
    have hfound : q.sessions.get? other = some found := by
      unfold get at hg
      dsimp only at hg
      split at hg <;> cases hg
      exact (Table.get?_insert ..).trans (if_pos rfl)
    split at h
    · rename_i hid
      cases h
      exact ⟨found, hid ▸ hfound, rfl⟩
    · exact ⟨s, h, rfl⟩

/-! ### Runs under a clock -/

/-- A pool with the latest reading of the clock. -/
structure Dated where
  pool : SessionPool
  reading : Instant

namespace Dated

/-- What an operation is about. -/
inductive Concern where
  | starting (id : String)
  | visiting (id : String)
  | removing (id : String)
  | clearing
  | limiting (ttl : Span)

/-- Whether an operation looks at the clock. -/
def Concern.looks : Concern → Bool
  | .starting _ | .visiting _ => true
  | _ => false

/-- An operation that neither stores nor removes a session under an id, and that leaves the time to
live within a bound. -/
def Concern.Spares (id : String) (ttl : Span) : Concern → Prop
  | .starting other | .removing other => other ≠ id
  | .visiting _ => True
  | .clearing => False
  | .limiting ttl' => ttl' ≤ ttl

/-- One operation, with readings of the clock that follow one another. Starting a session takes the
time before it drops idle sessions, looking one up and working with it take it afterwards. -/
inductive Step : Concern → Dated → Dated → Prop
  | create {d : Dated} (id : String) (calculator : AnyCalculator) (unitSets : List String)
      {now purging : Instant} (hnow : d.reading ≤ now) (hpurging : now ≤ purging) :
      Step (.starting id) d ⟨(d.pool.create id calculator unitSets now purging).2, purging⟩
  | get {d : Dated} (id : String) {now purging : Instant} (hpurging : d.reading ≤ purging)
      (hnow : purging ≤ now) :
      Step (.visiting id) d ⟨(d.pool.get id now purging).2, now⟩
  | use {d : Dated} {β : Type} (id : String) (work : Session → Except Fault β × AnyCalculator)
      {now purging : Instant} (hpurging : d.reading ≤ purging) (hnow : purging ≤ now) :
      Step (.visiting id) d ⟨(d.pool.use id now work purging).2, now⟩
  | delete {d : Dated} (id : String) :
      Step (.removing id) d { d with pool := (d.pool.delete id).2 }
  | clear {d : Dated} : Step .clearing d { d with pool := d.pool.clear }
  | configure {d : Dated} (ttl : Span) (capacity : Int) :
      Step (.limiting ttl) d { d with pool := d.pool.configure ttl capacity }

/-- Operations one after the other. -/
inductive Run : List Concern → Dated → Dated → Prop
  | nil {d : Dated} : Run [] d d
  | cons {c : Concern} {cs : List Concern} {d d' d'' : Dated} (first : Step c d d')
      (rest : Run cs d' d'') : Run (c :: cs) d d''

/-- What operations lead to from a pool without sessions. -/
def Reached (d : Dated) : Prop :=
  ∃ ttl capacity reading cs, Run cs ⟨{ ttl, capacity }, reading⟩ d

variable {d d' : Dated} {c : Concern} {cs : List Concern}

/-- No session was last used after the latest reading of the clock. -/
def Past (d : Dated) : Prop :=
  ∀ id s, d.pool.sessions.get? id = some s → s.accessed ≤ d.reading

theorem Step.reading_le (st : Step c d d') : d.reading ≤ d'.reading := by
  cases st with
  | create id calculator unitSets hnow hpurging => exact Int.le_trans hnow hpurging
  | get id hpurging hnow => exact Int.le_trans hpurging hnow
  | use id work hpurging hnow => exact Int.le_trans hpurging hnow
  | _ => exact Int.le_refl _

/-- **No operation takes a last access into the future.** -/
theorem Past.step (hp : d.Past) (st : Step c d d') : d'.Past := by
  intro id s hs
  cases st with
  | create other calculator unitSets hnow hpurging =>
    rcases get?_create hs with ⟨-, ha⟩ | ht
    · exact ha ▸ hpurging
    · exact Int.le_trans (hp id s (get?_of_get?_purge ht)) (Int.le_trans hnow hpurging)
  | get other hpurging hnow =>
    obtain ⟨t, ht, ha | rfl⟩ := get?_get hs
    · exact Int.le_of_eq ha
    · exact Int.le_trans (hp id s (get?_of_get?_purge ht)) (Int.le_trans hpurging hnow)
  | use other work hpurging hnow =>
    obtain ⟨u, hu, hsu⟩ := get?_use hs
    rw [hsu]
    obtain ⟨t, ht, ha | rfl⟩ := get?_get hu
    · exact Int.le_of_eq ha
    · exact Int.le_trans (hp id u (get?_of_get?_purge ht)) (Int.le_trans hpurging hnow)
  | delete other =>
    by_cases hid : id = other
    · subst hid
      unfold SessionPool.delete at hs
      split at hs
      · simp [record] at hs
      · exact hp id s hs
    · rw [get?_delete_of_ne hid] at hs
      exact hp id s hs
  | clear => cases hs
  | configure ttl capacity => exact hp id s hs

theorem Past.run (hp : d.Past) (run : Run cs d d') : d'.Past := by
  induction run with
  | nil => exact hp
  | cons first _ ih => exact ih (hp.step first)

theorem Reached.past (h : d.Reached) : d.Past := by
  obtain ⟨ttl, capacity, reading, cs, run⟩ := h
  exact Past.run (fun _ _ hs => by cases hs) run

/-- **A look at the clock drops what is overdue.** -/
theorem Step.get?_eq_none_of_looks (st : Step c d d') (hlooks : c.looks = true) {ttl : Span}
    (hspares : c.Spares id ttl) (h : d.pool.Overdue id d.reading) :
    d'.pool.sessions.get? id = none := by
  have dropped {purging : Instant} (hp : d.reading ≤ purging) :
      (d.pool.purge purging).sessions.get? id = none :=
    (h.mono rfl (Int.le_refl _) hp).get?_purge_eq_none
  refine Option.eq_none_iff_forall_ne_some.2 fun s hs => ?_
  cases st with
  | create other calculator unitSets hnow hpurging =>
    rcases get?_create hs with ⟨hid, -⟩ | ht
    · exact hspares hid
    · rw [dropped (Int.le_trans hnow hpurging)] at ht
      cases ht
  | get other hpurging hnow =>
    obtain ⟨t, ht, -⟩ := get?_get hs
    rw [dropped hpurging] at ht
    cases ht
  | use other work hpurging hnow =>
    obtain ⟨u, hu, -⟩ := get?_use hs
    obtain ⟨t, ht, -⟩ := get?_get hu
    rw [dropped hpurging] at ht
    cases ht
  | delete | clear | configure => cases hlooks

/-- Without a look at the clock a session stays as it is. -/
theorem Step.get?_eq_of_not_looks (st : Step c d d') (hlooks : c.looks = false) {ttl : Span}
    (hspares : c.Spares id ttl) (httl : d.pool.ttl ≤ ttl) :
    d'.pool.sessions.get? id = d.pool.sessions.get? id ∧ d'.pool.ttl ≤ ttl := by
  cases st with
  | create | get | use => cases hlooks
  | delete other =>
    refine ⟨get?_delete_of_ne (Ne.symm hspares) d.pool, ?_⟩
    unfold SessionPool.delete
    split <;> exact httl
  | clear => exact hspares.elim
  | configure ttl' capacity => exact ⟨rfl, hspares⟩

/-- What is not stored is not stored again. -/
theorem Step.get?_eq_none (st : Step c d d') {ttl : Span} (hspares : c.Spares id ttl)
    (h : d.pool.sessions.get? id = none) : d'.pool.sessions.get? id = none := by
  refine Option.eq_none_iff_forall_ne_some.2 fun s hs => ?_
  have absent {t : Session} {purging : Instant}
      (ht : (d.pool.purge purging).sessions.get? id = some t) : False := by
    rw [get?_of_get?_purge ht] at h
    cases h
  cases st with
  | create other calculator unitSets =>
    rcases get?_create hs with ⟨hid, -⟩ | ht
    · exact hspares hid
    · exact absent ht
  | get other =>
    obtain ⟨t, ht, -⟩ := get?_get hs
    exact absent ht
  | use other work =>
    obtain ⟨u, hu, -⟩ := get?_use hs
    obtain ⟨t, ht, -⟩ := get?_get hu
    exact absent ht
  | delete other =>
    rw [get?_delete_of_ne (Ne.symm hspares), h] at hs
    cases hs
  | clear => cases hs
  | configure => exact nomatch h.symm.trans hs

theorem Run.get?_eq_none (run : Run cs d d') {ttl : Span} (hspares : ∀ c ∈ cs, c.Spares id ttl)
    (h : d.pool.sessions.get? id = none) : d'.pool.sessions.get? id = none := by
  induction run with
  | nil => exact h
  | cons first _ ih =>
    obtain ⟨hc, hcs⟩ := List.forall_mem_cons.1 hspares
    exact ih hcs (first.get?_eq_none hc h)

/-- The session under an id was idle for longer than a bound of the time to live. -/
structure Idle (d : Dated) (id : String) (ttl : Span) : Prop where
  expired : ∃ s, d.pool.sessions.get? id = some s ∧ s.expired ttl d.reading = true
  bound : d.pool.ttl ≤ ttl

theorem Idle.overdue {ttl : Span} (h : d.Idle id ttl) : d.pool.Overdue id d.reading := by
  obtain ⟨s, hs, he⟩ := h.expired
  exact ⟨s, hs, decide_eq_true (Int.lt_of_le_of_lt h.bound (of_decide_eq_true he))⟩

/-- Time only goes on. -/
theorem Idle.step {ttl : Span} (h : d.Idle id ttl) (st : Step c d d') (hlooks : c.looks = false)
    (hspares : c.Spares id ttl) : d'.Idle id ttl := by
  obtain ⟨hget, hbound⟩ := st.get?_eq_of_not_looks hlooks hspares h.bound
  obtain ⟨s, hs, he⟩ := h.expired
  refine ⟨⟨s, hget.trans hs, decide_eq_true ?_⟩, hbound⟩
  exact Int.lt_of_lt_of_le (of_decide_eq_true he) (Int.sub_le_sub_right st.reading_le s.accessed)

/-- **What is left of an overdue session**: whatever else is asked, it is never looked up again,
and it can be removed exactly until an operation looks at the clock. -/
theorem Run.overdue (run : Run cs d d') {ttl : Span} (hspares : ∀ c ∈ cs, c.Spares id ttl)
    (h : d.Idle id ttl) :
    (∀ now, d'.reading ≤ now → (d'.pool.get id now).1 = none) ∧
      ((d'.pool.delete id).1 = true ↔ ∀ c ∈ cs, c.looks = false) := by
  induction run with
  | @nil d =>
    refine ⟨fun now hnow => ((h.overdue.mono rfl (Int.le_refl _) hnow).not_found now).1, ?_⟩
    exact iff_of_true ((delete_iff d.pool id d.reading d.reading).2 (.inr h.overdue)) nofun
  | @cons c cs d d' d'' first rest ih =>
    obtain ⟨hc, hcs⟩ := List.forall_mem_cons.1 hspares
    rw [List.forall_mem_cons]
    cases hlooks : c.looks with
    | false =>
      obtain ⟨hget, hdelete⟩ := ih hcs (h.step first hlooks hc)
      exact ⟨hget, hdelete.trans (and_iff_right rfl).symm⟩
    | true =>
      have hnone := rest.get?_eq_none hcs (first.get?_eq_none_of_looks hlooks hc h.overdue)
      refine ⟨fun now _ => ?_, iff_of_false ?_ fun hblind => nomatch hblind.1⟩
      · rw [← Option.not_isSome_iff_eq_none, get_isSome_iff, hnone]
        rintro ⟨s, hs, -⟩
        cases hs
      · unfold SessionPool.delete Table.contains
        simp [hnone]

end Dated
end SessionPool
end QuantityCalculus
