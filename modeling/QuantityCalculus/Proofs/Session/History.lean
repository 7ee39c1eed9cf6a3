/-
# The life of a pool

Clients start sessions, look them up, work with them and remove them, and the limits of the pool
change. Whatever they do, in any order and with any readings of the clock, the pool stays a
bounded store of the sessions that were used most recently: the sessions that were idle too long
go first, then those whose last access is the longest ago, of equals the one stored first. A
session that is gone does not come back.

**Main statement.** `leastRecentlyUsed_of_reached`.
-/

import QuantityCalculus.Proofs.Session.Stored

namespace QuantityCalculus
namespace SessionPool

/-- A pool with all sessions that were ever started in it, as they were then. -/
structure History where
  pool : SessionPool
  started : List Session

namespace History

/-- One operation on a pool. A session is started under an id that none had before, and the
capacity is never set below one. -/
inductive Step : History → History → Prop
  | create {h : History} (id : String) (calculator : AnyCalculator) (unitSets : List String)
      (now purging : Instant) (hid : ∀ c ∈ h.started, c.id ≠ id) :
      Step h ⟨(h.pool.create id calculator unitSets now purging).2,
        h.started ++ [⟨id, calculator, unitSets, now, now, false⟩]⟩
  | get {h : History} (id : String) (now purging : Instant) :
      Step h { h with pool := (h.pool.get id now purging).2 }
  | use {h : History} {β : Type} (id : String) (now purging : Instant)
      (work : Session → Except Fault β × AnyCalculator) :
      Step h { h with pool := (h.pool.use id now work purging).2 }
  | delete {h : History} (id : String) : Step h { h with pool := (h.pool.delete id).2 }
  | clear {h : History} : Step h { h with pool := h.pool.clear }
  | configure {h : History} (ttl : Span) (capacity : Int) (hc : 1 ≤ capacity) :
      Step h { h with pool := h.pool.configure ttl capacity }

/-- Operations one after the other. -/
inductive Reaches : History → History → Prop
  | refl (h : History) : Reaches h h
  | step {h h' h'' : History} (run : Reaches h h') (next : Step h' h'') : Reaches h h''

/-- A pool in which no session was started so far. -/
def empty (ttl : Span) (capacity : Int) : History := ⟨{ ttl, capacity }, []⟩

/-- What operations lead to from an empty pool with room for one session at least. -/
def Reached (h : History) : Prop := ∃ ttl capacity, 1 ≤ capacity ∧ Reaches (empty ttl capacity) h

/-- A stored session is the one that was started as `c`. -/
structure Is (s c : Session) : Prop where
  id : s.id = c.id
  unitSets : s.unitSets = c.unitSets
  created : s.created = c.created

/-- **A bounded store of the most recent sessions.** -/
structure LeastRecentlyUsed (h : History) : Prop where
  /-- Every session sits under its own id. -/
  keyed : h.pool.Keyed
  /-- A session can always be started: eviction ends, the pool holds the new session and the
  most recent of those that were not idle too long, and it is within its capacity. -/
  create : ∀ id calculator unitSets now purging, (∀ c ∈ h.started, c.id ≠ id) →
    ∃ roomy q, Evicts (h.pool.purge purging) roomy ∧
      h.pool.create id calculator unitSets now purging =
        (.ok ⟨id, calculator, unitSets, now, now, false⟩, q) ∧
      Recent (h.pool.capacity - 1).toNat (h.pool.live purging) roomy.stored ∧
      q.stored = roomy.stored ++ [⟨id, calculator, unitSets, now, now, false⟩] ∧
      (q.sessions.size : Int) ≤ h.pool.capacity
  /-- A session is found as long as it is stored and was not idle too long. -/
  found : ∀ id now purging, (h.pool.get id now purging).1.isSome ↔
    ∃ s ∈ h.pool.stored, s.id = id ∧ purging - s.accessed ≤ h.pool.ttl
  /-- What is found is the stored session, with its last access now, and it is the one session
  that was started under the id. -/
  get : ∀ id now purging s, (h.pool.get id now purging).1 = some s →
    (∃ t ∈ h.pool.stored, t.id = id ∧ s = seenAt now t) ∧
      ∃ c ∈ h.started, c.id = id ∧ Is s c ∧ ∀ d ∈ h.started, d.id = id → d = c
  /-- Looking a session up changes the last access of this session, and no other session but
  those that were idle too long. -/
  refreshed : ∀ id now purging, (h.pool.get id now purging).2.stored =
    (h.pool.live purging).map (changed id (seenAt now))
  /-- Working with a session looks it up, and changes nothing but this session. -/
  use : ∀ {β : Type} id now purging (work : Session → Except Fault β × AnyCalculator),
    ((h.pool.use id now work purging).1 = .error .notFound ↔
      (h.pool.get id now purging).1 = none) ∧
    (h.pool.use id now work purging).2.stored =
      (h.pool.live purging).map (changed id (worked work ∘ seenAt now))
  /-- Removing an id removes its session, and clearing a pool all of them. -/
  delete : (∀ id, (h.pool.delete id).2.stored = h.pool.stored.filter fun s => s.id ≠ id) ∧
    h.pool.clear.stored = []
  /-- A session that is stored no more is never stored or found again. -/
  gone : ∀ c ∈ h.started, (∀ s ∈ h.pool.stored, s.id ≠ c.id) → ∀ h', Reaches h h' →
    (∀ s ∈ h'.pool.stored, s.id ≠ c.id) ∧
      ∀ now purging, (h'.pool.get c.id now purging).1 = none

/-! ### The invariant -/

/-- What all operations keep. -/
structure Sound (h : History) : Prop where
  keyed : h.pool.Keyed
  capacity : 1 ≤ h.pool.capacity
  unique : ∀ c ∈ h.started, ∀ d ∈ h.started, c.id = d.id → c = d
  origin : ∀ s ∈ h.pool.stored, ∃ c ∈ h.started, Is s c

theorem Is.refl (s : Session) : Is s s := ⟨rfl, rfl, rfl⟩

theorem Is.trans {s t c : Session} (h₁ : Is s t) (h₂ : Is t c) : Is s c :=
  ⟨h₁.id.trans h₂.id, h₁.unitSets.trans h₂.unitSets, h₁.created.trans h₂.created⟩

theorem is_of_mem_map {id : String} {f : Session → Session} (hf : ∀ s, Is (f s) s)
    {ss : List Session} {s : Session} (h : s ∈ ss.map (changed id f)) : ∃ t ∈ ss, Is s t := by
  obtain ⟨t, ht, rfl⟩ := List.mem_map.1 h
  refine ⟨t, ht, ?_⟩
  unfold changed
  split
  · exact hf t
  · exact Is.refl t

variable {h h' : History}

/-- A new id is not that of a stored session. -/
theorem Sound.unused (hs : h.Sound) {id : String} (hid : ∀ c ∈ h.started, c.id ≠ id) :
    ∀ s ∈ h.pool.stored, s.id ≠ id := by
  intro s hm he
  obtain ⟨c, hc, his⟩ := hs.origin s hm
  exact hid c hc (his.id ▸ he)

/-- **What an operation does to the ids**: a session stored afterwards was stored before, or the
operation started it under an id of its own. -/
theorem Step.origin (hs : h.Sound) (st : Step h h') {s : Session} (hm : s ∈ h'.pool.stored) :
    (∃ t ∈ h.pool.stored, Is s t) ∨ s ∈ h'.started ∧ ∀ c ∈ h.started, c.id ≠ s.id := by
  have ofLive {purging : Instant} {t : Session} (ht : t ∈ h.pool.live purging) :
      t ∈ h.pool.stored := (List.mem_filter.1 ht).1
  cases st with
  | create id calculator unitSets now purging hid =>
    obtain ⟨roomy, q, -, hq, hrecent, hstored, -, -⟩ :=
      create_spec hs.keyed hs.capacity (hs.unused hid) calculator unitSets now purging
    rw [hq, hstored] at hm
    rcases List.mem_append.1 hm with hm | hm
    · exact .inl ⟨s, ofLive (hrecent.sublist.subset hm), Is.refl s⟩
    · cases List.mem_singleton.1 hm
      exact .inr ⟨List.mem_append_right _ (List.mem_singleton.2 rfl), hid⟩
  | get id now purging =>
    rw [stored_get hs.keyed] at hm
    obtain ⟨t, ht, his⟩ := is_of_mem_map (f := seenAt now) (fun s => ⟨rfl, rfl, rfl⟩) hm
    exact .inl ⟨t, ofLive ht, his⟩
  | use id now purging work =>
    rw [(use_spec hs.keyed id now purging work).1] at hm
    obtain ⟨t, ht, his⟩ := is_of_mem_map (f := worked work ∘ seenAt now)
      (fun s => ⟨rfl, rfl, rfl⟩) hm
    exact .inl ⟨t, ofLive ht, his⟩
  | delete id =>
    rw [stored_delete hs.keyed] at hm
    exact .inl ⟨s, (List.mem_filter.1 hm).1, Is.refl s⟩
  | clear => cases hm
  | configure => exact .inl ⟨s, hm, Is.refl s⟩

theorem Step.started_subset (st : Step h h') : ∀ c ∈ h.started, c ∈ h'.started := by
  cases st with
  | create => exact fun c hc => List.mem_append_left _ hc
  | _ => exact fun c hc => hc

/-- **Every operation keeps the invariant.** -/
theorem Sound.step (hs : h.Sound) (st : Step h h') : h'.Sound := by
  have origin : ∀ s ∈ h'.pool.stored, ∃ c ∈ h'.started, Is s c := by
    intro s hm
    rcases st.origin hs hm with ⟨t, ht, his⟩ | ⟨hc, -⟩
    · obtain ⟨c, hc, hit⟩ := hs.origin t ht
      exact ⟨c, st.started_subset c hc, his.trans hit⟩
    · exact ⟨s, hc, Is.refl s⟩
  cases st with
  | create id calculator unitSets now purging hid =>
    obtain ⟨roomy, q, -, hq, -, -, hkeyed, hcap⟩ :=
      create_spec hs.keyed hs.capacity (hs.unused hid) calculator unitSets now purging
    refine ⟨?_, ?_, ?_, origin⟩
    · rw [hq]
      exact hkeyed
    · rw [hq]
      exact hcap ▸ hs.capacity
    · intro c hc d hd he
      rcases List.mem_append.1 hc with hc | hc <;> rcases List.mem_append.1 hd with hd | hd
      · exact hs.unique c hc d hd he
      · cases List.mem_singleton.1 hd
        exact absurd he (hid c hc)
      · cases List.mem_singleton.1 hc
        exact absurd he.symm (hid d hd)
      · rw [List.mem_singleton.1 hc, List.mem_singleton.1 hd]
  | get id now purging =>
    exact ⟨hs.keyed.get id now purging, (capacity_get ..).symm ▸ hs.capacity, hs.unique, origin⟩
  | use id now purging work =>
    exact ⟨(use_spec hs.keyed id now purging work).2.1, (capacity_use ..).symm ▸ hs.capacity,
      hs.unique, origin⟩
  | delete id =>
    exact ⟨hs.keyed.delete id, (capacity_delete ..).symm ▸ hs.capacity, hs.unique, origin⟩
  | clear => exact ⟨Table.forall_empty, hs.capacity, hs.unique, origin⟩
  | configure ttl capacity hc => exact ⟨hs.keyed, hc, hs.unique, origin⟩

theorem sound_empty (ttl : Span) {capacity : Int} (hc : 1 ≤ capacity) :
    (empty ttl capacity).Sound :=
  ⟨Table.forall_empty, hc, (fun _ hc => by cases hc), fun _ hs => by cases hs⟩

theorem Sound.reaches (hs : h.Sound) (run : Reaches h h') : h'.Sound := by
  induction run with
  | refl => exact hs
  | step _ next ih => exact ih.step next

theorem Reached.sound (hr : h.Reached) : h.Sound := by
  obtain ⟨ttl, capacity, hc, run⟩ := hr
  exact (sound_empty ttl hc).reaches run

/-- **What is gone stays gone**: no operation stores a session of an id that was given before. -/
theorem Reaches.gone (hs : h.Sound) (run : Reaches h h') {c : Session} (hc : c ∈ h.started)
    (hgone : ∀ s ∈ h.pool.stored, s.id ≠ c.id) :
    c ∈ h'.started ∧ ∀ s ∈ h'.pool.stored, s.id ≠ c.id := by
  induction run with
  | refl => exact ⟨hc, hgone⟩
  | step run next ih =>
    obtain ⟨hc', hgone'⟩ := ih
    refine ⟨next.started_subset c hc', fun s hm he => ?_⟩
    rcases next.origin (hs.reaches run) hm with ⟨t, ht, his⟩ | ⟨-, hnew⟩
    · exact hgone' t ht (his.id ▸ he)
    · exact hnew c hc' he.symm

/-- A session that is found is stored and was not idle too long. -/
theorem get_eq_some (hk : h.pool.Keyed) {id : String} {now purging : Instant} {s : Session}
    (hg : (h.pool.get id now purging).1 = some s) :
    ∃ t ∈ h.pool.stored, t.id = id ∧ purging - t.accessed ≤ h.pool.ttl ∧ s = seenAt now t := by
  rcases get_cases hk id now purging with ⟨t, ht, hid, he⟩ | ⟨-, he⟩
  · obtain ⟨hm, hlive⟩ := List.mem_filter.1 ht
    rw [he] at hg
    exact ⟨t, hm, hid, of_decide_eq_true hlive, (Option.some.inj hg).symm⟩
  · rw [he] at hg
    cases hg

/-- **A pool is a bounded store of the most recent sessions**, whatever clients do with it. -/
theorem leastRecentlyUsed_of_reached (hr : h.Reached) : h.LeastRecentlyUsed := by
  have hs := hr.sound
  refine ⟨hs.keyed, fun id calculator unitSets now purging hid => ?_, fun id now purging => ?_,
    fun id now purging s hg => ?_, fun id now purging => stored_get hs.keyed id now purging,
    fun id now purging work => ?_, ⟨fun id => stored_delete hs.keyed id, rfl⟩,
    fun c hc hgone h' run => ?_⟩
  · obtain ⟨roomy, q, hev, hq, hrecent, hstored, -⟩ :=
      create_spec hs.keyed hs.capacity (hs.unused hid) calculator unitSets now purging
    refine ⟨roomy, q, hev, hq, hrecent, hstored, ?_⟩
    have hsize := q.length_stored
    have hkept := hrecent.length
    have hcap := hs.capacity
    rw [hstored, List.length_append, List.length_singleton] at hsize
    omega
  · constructor
    · intro h
      obtain ⟨s, hg⟩ := Option.isSome_iff_exists.1 h
      obtain ⟨t, ht, hid, hlive, -⟩ := get_eq_some hs.keyed hg
      exact ⟨t, ht, hid, hlive⟩
    · rintro ⟨t, ht, hid, hlive⟩
      rcases get_cases hs.keyed id now purging with ⟨_, _, _, he⟩ | ⟨hnone, -⟩
      · rw [he]
        rfl
      · exact absurd hid (hnone t (List.mem_filter.2 ⟨ht, decide_eq_true hlive⟩))
  · obtain ⟨t, ht, hid, -, rfl⟩ := get_eq_some hs.keyed hg
    obtain ⟨c, hc, his⟩ := hs.origin t ht
    have hcid : c.id = id := his.id ▸ hid
    exact ⟨⟨t, ht, hid, rfl⟩, c, hc, hcid, ⟨his.id, his.unitSets, his.created⟩,
      fun d hd hdid => hs.unique d hd c hc (hdid.trans hcid.symm)⟩
  · obtain ⟨hstored, -, hfound⟩ := use_spec hs.keyed id now purging work
    exact ⟨hfound, hstored⟩
  · obtain ⟨-, hgone'⟩ := run.gone hs hc hgone
    refine ⟨hgone', fun now purging => Option.eq_none_iff_forall_ne_some.2 fun s hg => ?_⟩
    obtain ⟨t, ht, hid, -⟩ := get_eq_some (hs.reaches run).keyed hg
    exact hgone' t ht hid

/-- A session over real numbers, as it is started. -/
def plain (id : String) (now : Instant) : Session :=
  ⟨id, .real { settings := {} }, [], now, now, false⟩

/-- What starting a plain session leads to. -/
def start (h : History) (id : String) (now : Instant) : History :=
  ⟨(h.pool.create id (plain id now).calculator [] now).2, h.started ++ [plain id now]⟩

/-- Room for two sessions, and a third one started when two were used at the same time. -/
def crowded : History := (((empty 100 2).start "a" 0).start "b" 0).start "c" 5

theorem reached_crowded : Reached crowded := by
  have run : Reaches (empty 100 2) crowded := by
    refine .step (.step (.step (.refl _) (.create "a" _ [] 0 0 ?_)) (.create "b" _ [] 0 0 ?_))
      (.create "c" _ [] 5 5 ?_)
    · exact fun c hc => by cases hc
    · intro c hc
      cases List.mem_singleton.1 hc
      decide
    · intro c hc
      rcases List.mem_cons.1 hc with rfl | hc
      · decide
      · cases List.mem_singleton.1 hc
        decide
  exact ⟨100, 2, by decide, run⟩

/-- Of the two sessions that were used at the same time the one stored first made room; the other
one is found until it was idle for longer than the time to live. -/
theorem leastRecentlyUsed_crowded :
    Reached crowded ∧ (∀ h', Reaches crowded h' → (h'.pool.get "a" 5).1 = none) ∧
      (crowded.pool.get "b" 100).1.isSome ∧ ¬ (crowded.pool.get "b" 101).1.isSome := by
  have hall := leastRecentlyUsed_of_reached reached_crowded
  have hstored : crowded.pool.stored = [plain "b" 0, plain "c" 5] := rfl
  refine ⟨reached_crowded, fun h' run => ?_, ?_, ?_⟩
  · refine (hall.gone (plain "a" 0) (List.mem_cons_self ..) ?_ h' run).2 5 5
    intro s hs
    rw [hstored] at hs
    rcases List.mem_cons.1 hs with rfl | hs
    · decide
    · cases List.mem_singleton.1 hs
      decide
  · refine (hall.found "b" 100 100).2 ⟨plain "b" 0, ?_, rfl, by decide⟩
    rw [hstored]
    exact List.mem_cons_self ..
  · intro h
    obtain ⟨s, hs, hid, hidle⟩ := (hall.found "b" 101 101).1 h
    rw [hstored] at hs
    rcases List.mem_cons.1 hs with rfl | hs
    · exact absurd hidle (by decide)
    · cases List.mem_singleton.1 hs
      exact absurd hid (by decide)

end History
end SessionPool
end QuantityCalculus
