/-
# What is stored in a pool

Every session of a pool sits under its own id, so the pool is its list of sessions in the order
in which they were stored. In these terms the operations say what they do: purging keeps the
sessions that were idle for no longer than the time to live, eviction keeps the most recent ones,
and looking a session up changes the time of its last access and nothing else.

Eviction goes on until there is room for one more. That it comes to an end needs the ids: the
session that is picked is removed by its id, and only under its own id is there one less.

**Main statements.** `stored_purge`, `evicts_evict`, `Evicts.recent`, `create_spec`, `get_cases`,
`use_spec` and `stored_delete`.
-/

import QuantityCalculus.Proofs.Except
import QuantityCalculus.Proofs.Table
import QuantityCalculus.Session.Pool

namespace QuantityCalculus
namespace SessionPool

/-- The sessions of a pool, in the order in which they were stored. -/
def stored (p : SessionPool) : List Session := p.sessions.values

/-- The sessions that were idle for no longer than the time to live. -/
def live (p : SessionPool) (now : Instant) : List Session :=
  p.stored.filter fun s => decide (now - s.accessed ≤ p.ttl)

/-- Every session sits under its own id. -/
def Keyed (p : SessionPool) : Prop := ∀ e ∈ p.sessions.entries, e.1 = e.2.id

variable {p q : SessionPool} {id : String} {s : Session} {now purging : Instant}

/-! ### Sessions under their ids -/

namespace Keyed

theorem entries_eq (h : p.Keyed) : p.sessions.entries = p.stored.map fun s => (s.id, s) := by
  rw [stored, Table.values, List.map_map]
  refine ((List.map_congr_left fun e he => ?_).trans (List.map_id _)).symm
  exact Prod.ext (h e he).symm rfl

theorem keys_eq (h : p.Keyed) : p.sessions.keys = p.stored.map Session.id := by
  rw [Table.keys, h.entries_eq, List.map_map]
  rfl

theorem nodup (h : p.Keyed) : (p.stored.map Session.id).Nodup := h.keys_eq ▸ p.sessions.distinct

theorem get?_eq_some_iff (h : p.Keyed) :
    p.sessions.get? id = some s ↔ s ∈ p.stored ∧ s.id = id := by
  rw [Table.get?_eq_some_iff, h.entries_eq, List.mem_map]
  constructor
  · rintro ⟨t, ht, he⟩
    cases he
    exact ⟨ht, rfl⟩
  · rintro ⟨hs, rfl⟩
    exact ⟨s, hs, rfl⟩

/-- Two stored sessions of one id are the same session. -/
theorem unique (h : p.Keyed) {t : Session} (hs : s ∈ p.stored) (ht : t ∈ p.stored)
    (hid : s.id = t.id) : s = t :=
  Option.some.inj ((h.get?_eq_some_iff.2 ⟨hs, hid⟩).symm.trans (h.get?_eq_some_iff.2 ⟨ht, rfl⟩))

theorem erase (h : p.Keyed) (k : String) (hq : q.sessions = p.sessions.erase k) : q.Keyed := by
  unfold Keyed
  rw [hq]
  exact Table.forall_erase h

theorem insert (h : p.Keyed) (hid : s.id = id) (hq : q.sessions = p.sessions.insert id s) :
    q.Keyed := by
  unfold Keyed
  rw [hq]
  exact Table.forall_insert h hid.symm

end Keyed

/-- Removing an id removes the sessions of that id. -/
theorem values_erase (h : p.Keyed) (k : String) :
    (p.sessions.erase k).values = p.stored.filter fun s => s.id ≠ k := by
  rw [Table.values, Table.entries_erase, h.entries_eq, List.filter_map, List.map_map]
  exact List.map_id _

/-- A session of a new id is stored behind the others. -/
theorem values_insert_new (h : p.Keyed) (s : Session) (hid : ∀ t ∈ p.stored, t.id ≠ s.id) :
    (p.sessions.insert s.id s).values = p.stored ++ [s] := by
  have hk : s.id ∉ p.sessions.keys := by
    rw [h.keys_eq, List.mem_map]
    rintro ⟨t, ht, he⟩
    exact hid t ht he
  rw [Table.values, Table.entries_insert hk, List.map_append]
  rfl

/-! ### Purging -/

theorem sessions_purge (p : SessionPool) (now : Instant) :
    (p.purge now).sessions.entries =
      p.sessions.entries.filter fun e => decide (now - e.2.accessed ≤ p.ttl) := by
  have hall : (p.purge now).sessions = (p.expiredIds now).foldl Table.erase p.sessions := by
    unfold purge
    split
    · rename_i h
      rw [h]
      rfl
    · rfl
  rw [hall, Table.entries_eraseAll]
  refine List.filter_congr fun e he => ?_
  -- the key of an expired session is not the key of another session
  have hids : e.1 ∈ p.expiredIds now ↔ p.ttl < now - e.2.accessed := by
    simp only [expiredIds, List.mem_map, List.mem_filter, Session.expired, decide_eq_true_eq]
    constructor
    · rintro ⟨d, ⟨hd, hx⟩, hde⟩
      have h₁ : p.sessions.get? d.1 = some d.2 := Table.get?_eq_some_iff.2 hd
      have h₂ : p.sessions.get? e.1 = some e.2 := Table.get?_eq_some_iff.2 he
      rw [hde, h₂] at h₁
      rwa [Option.some.inj h₁]
    · exact fun hx => ⟨e, ⟨he, hx⟩, rfl⟩
  rw [decide_eq_decide, hids]
  exact Int.not_lt

/-- **Purging** keeps the sessions that were idle for no longer than the time to live. -/
theorem stored_purge (p : SessionPool) (now : Instant) : (p.purge now).stored = p.live now := by
  rw [stored, Table.values, sessions_purge, live, stored, Table.values, List.filter_map]
  rfl

theorem limits_purge (p : SessionPool) (now : Instant) :
    (p.purge now).ttl = p.ttl ∧ (p.purge now).capacity = p.capacity := by
  unfold purge
  split <;> exact ⟨rfl, rfl⟩

theorem Keyed.purge (h : p.Keyed) (now : Instant) : (p.purge now).Keyed := by
  intro e he
  rw [sessions_purge] at he
  exact h e (List.mem_filter.1 he).1

/-! ### Eviction -/

/-- Of two stored sessions, the first goes before the second when sessions are evicted: its last
access is longer ago, or as long ago and it was stored earlier. -/
def GoesBefore (ss : List Session) (e s : Session) : Prop :=
  e.accessed < s.accessed ∨ e.accessed = s.accessed ∧ [e, s].Sublist ss

/-- What is kept of sessions where there is room for `n`: as many as there is room for, in their
order, and all the others go before them. -/
structure Recent (n : Nat) (ss kept : List Session) : Prop where
  sublist : kept.Sublist ss
  length : kept.length = min ss.length n
  later : ∀ s ∈ kept, ∀ e ∈ ss, e ∉ kept → GoesBefore ss e s

/-- A session is the first of those whose last access is the longest ago. -/
theorem oldest?_eq_some {ss : List Session} {m : Session} (h : oldest? ss = some m) :
    ∃ before after, ss = before ++ m :: after ∧ (∀ s ∈ before, m.accessed < s.accessed) ∧
      ∀ s ∈ after, m.accessed ≤ s.accessed := by
  -- the oldest so far has the later sessions before it and no earlier ones behind it
  have key : ∀ (rest before after : List Session) (o : Session),
      (∀ s ∈ before, o.accessed < s.accessed) → (∀ s ∈ after, o.accessed ≤ s.accessed) →
      ∃ before' after', before ++ o :: after ++ rest = before' ++ rest.foldl older o :: after' ∧
        (∀ s ∈ before', (rest.foldl older o).accessed < s.accessed) ∧
        ∀ s ∈ after', (rest.foldl older o).accessed ≤ s.accessed := by
    intro rest
    induction rest with
    | nil => exact fun before after o hb ha => ⟨before, after, by simp, hb, ha⟩
    | cons t rest ih =>
      intro before after o hb ha
      rw [List.foldl_cons]
      by_cases ht : t.accessed < o.accessed
      · rw [older, if_pos ht]
        have hall : ∀ s ∈ before ++ o :: after, t.accessed < s.accessed := by
          intro s hs
          rcases List.mem_append.1 hs with hs | hs
          · exact Int.lt_trans ht (hb s hs)
          · rcases List.mem_cons.1 hs with rfl | hs
            · exact ht
            · exact Int.lt_of_lt_of_le ht (ha s hs)
        obtain ⟨b, a, he, h₁, h₂⟩ := ih (before ++ o :: after) [] t hall (by simp)
        exact ⟨b, a, by rw [← he]; simp, h₁, h₂⟩
      · rw [older, if_neg ht]
        have hall : ∀ s ∈ after ++ [t], o.accessed ≤ s.accessed := by
          intro s hs
          rcases List.mem_append.1 hs with hs | hs
          · exact ha s hs
          · rw [List.mem_singleton.1 hs]
            exact Int.not_lt.1 ht
        obtain ⟨b, a, he, h₁, h₂⟩ := ih before (after ++ [t]) o hb hall
        exact ⟨b, a, by rw [← he]; simp, h₁, h₂⟩
  cases ss with
  | nil => cases h
  | cons o rest =>
    cases h
    simpa using key rest [] [] o (by simp) (by simp)

/-- A pool without one of its sessions, which was evicted. -/
def without (p : SessionPool) (m : Session) : SessionPool :=
  { p with sessions := p.sessions.erase m.id }.record (.sessionEvicted m.id)

/-- Eviction, session by session, until there is room for one more. -/
inductive Evicts : SessionPool → SessionPool → Prop
  | room {p : SessionPool} (h : (p.sessions.size : Int) < p.capacity) : Evicts p p
  | next {p q : SessionPool} {m : Session} (h : p.capacity ≤ p.sessions.size)
      (hm : oldest? p.stored = some m) (rest : Evicts (p.without m) q) : Evicts p q

theorem length_stored (p : SessionPool) : p.stored.length = p.sessions.size :=
  List.length_map _

theorem Keyed.without (h : p.Keyed) (m : Session) : (p.without m).Keyed := h.erase m.id rfl

/-- The session that is evicted is the only one that is missing afterwards. -/
theorem stored_without (h : p.Keyed) {m : Session} {before after : List Session}
    (hs : p.stored = before ++ m :: after) : (p.without m).stored = before ++ after := by
  have hnd := h.nodup
  rw [hs, List.map_append, List.map_cons, List.nodup_append] at hnd
  obtain ⟨-, ha, hb⟩ := hnd
  have hbefore : before.filter (fun s => decide (s.id ≠ m.id)) = before := by
    refine List.filter_eq_self.2 fun s hs => decide_eq_true ?_
    exact hb s.id (List.mem_map_of_mem hs) m.id (List.mem_cons_self ..)
  have hafter : after.filter (fun s => decide (s.id ≠ m.id)) = after := by
    refine List.filter_eq_self.2 fun s hs => decide_eq_true fun he => ?_
    exact (List.nodup_cons.1 ha).1 (he ▸ List.mem_map_of_mem hs)
  have herase : (p.without m).stored = p.stored.filter fun s => s.id ≠ m.id := values_erase h m.id
  rw [herase, hs, List.filter_append, List.filter_cons_of_neg (by simp), hbefore, hafter]

/-- **Eviction comes to an end** where sessions sit under their ids and there is room for one:
what the loop gives within as many rounds as there are sessions, it gives without any bound. -/
theorem evicts_evict (h : p.Keyed) (hc : 1 ≤ p.capacity) {rounds : Nat}
    (hr : p.sessions.size ≤ rounds) : Evicts p (evict rounds p) := by
  induction rounds generalizing p with
  | zero => exact .room (by omega)
  | succ rounds ih =>
    rw [evict]
    split
    · rename_i hroom
      exact .room hroom
    · rename_i hfull
      rw [Int.not_lt] at hfull
      cases hm : oldest? p.sessions.values with
      | none =>
        -- a full pool is not empty, as there is room for one session at least
        cases hv : p.stored with
        | nil =>
          have := p.length_stored
          rw [hv, List.length_nil] at this
          omega
        | cons o rest =>
          rw [← stored, hv] at hm
          cases hm
      | some m =>
        obtain ⟨before, after, hs, -, -⟩ := oldest?_eq_some hm
        have hless := (p.without m).length_stored
        rw [stored_without h hs, List.length_append] at hless
        have hsize := p.length_stored
        rw [stored, hs, List.length_append, List.length_cons] at hsize
        exact .next hfull hm (ih (h.without m) hc (by omega))

namespace Evicts

theorem keyed (h : Evicts p q) (hk : p.Keyed) : q.Keyed := by
  induction h with
  | room => exact hk
  | next _ _ _ ih => exact ih (hk.without _)

theorem limits (h : Evicts p q) : q.ttl = p.ttl ∧ q.capacity = p.capacity := by
  induction h with
  | room => exact ⟨rfl, rfl⟩
  | next _ _ _ ih => exact ih

theorem room_left (h : Evicts p q) : (q.sessions.size : Int) < q.capacity := by
  induction h with
  | room h => exact h
  | next _ _ _ ih => exact ih

/-- **Eviction keeps the most recent sessions**, as many as leave room for one more. -/
theorem recent (h : Evicts p q) (hk : p.Keyed) (hc : 1 ≤ p.capacity) :
    Recent (p.capacity - 1).toNat p.stored q.stored := by
  induction h with
  | @room p h =>
    refine ⟨List.Sublist.refl _, ?_, fun s _ e he hn => absurd he hn⟩
    have := p.length_stored
    omega
  | @next p q m hfull hm _ ih =>
    obtain ⟨before, after, hs, hbefore, hafter⟩ := oldest?_eq_some hm
    have hrest := ih (hk.without m) hc
    rw [stored_without hk hs] at hrest
    have hsub : (before ++ after).Sublist p.stored := by
      rw [hs]
      exact (List.Sublist.refl before).append (List.sublist_cons_self m after)
    refine ⟨hrest.sublist.trans hsub, ?_, fun s hsq e he hn => ?_⟩
    · have hsize := p.length_stored
      have hlen := hrest.length
      rw [hs, List.length_append, List.length_cons] at hsize ⊢
      rw [List.length_append] at hlen
      have : (p.without m).capacity = p.capacity := rfl
      omega
    · by_cases hem : e = m
      · subst hem
        -- the session evicted first goes before every other
        rcases List.mem_append.1 (hrest.sublist.subset hsq) with h | h
        · exact .inl (hbefore s h)
        · rcases Int.lt_or_eq_of_le (hafter s h) with hlt | heq
          · exact .inl hlt
          · refine .inr ⟨heq, ?_⟩
            rw [hs]
            exact ((List.singleton_sublist.2 h).cons_cons e).trans (List.sublist_append_right ..)
      · have he' : e ∈ before ++ after := by
          rw [hs, List.mem_append, List.mem_cons] at he
          exact List.mem_append.2 (he.imp_right fun h => h.resolve_left hem)
        rcases hrest.later s hsq e he' hn with h | ⟨h, hsame⟩
        · exact .inl h
        · exact .inr ⟨h, hsame.trans hsub⟩

end Evicts

/-! ### The operations -/

/-- **Starting a session** of a new id: the most recent of the sessions that were not idle too
long are kept, as many as leave room, and the new one is stored behind them. -/
theorem create_spec (hk : p.Keyed) (hc : 1 ≤ p.capacity) (hid : ∀ s ∈ p.stored, s.id ≠ id)
    (calculator : AnyCalculator) (unitSets : List String) (now purging : Instant) :
    ∃ roomy q, Evicts (p.purge purging) roomy ∧
      p.create id calculator unitSets now purging =
        (.ok ⟨id, calculator, unitSets, now, now, false⟩, q) ∧
      Recent (p.capacity - 1).toNat (p.live purging) roomy.stored ∧
      q.stored = roomy.stored ++ [⟨id, calculator, unitSets, now, now, false⟩] ∧
      q.Keyed ∧ q.capacity = p.capacity := by
  have hkp := hk.purge purging
  have hcap := (limits_purge p purging).2
  have hev := evicts_evict hkp (hcap ▸ hc) (Nat.le_refl _)
  have hrecent := hev.recent hkp (hcap ▸ hc)
  rw [stored_purge, hcap] at hrecent
  generalize hr : evict (p.purge purging).sessions.size (p.purge purging) = roomy at hev hrecent
  refine ⟨roomy, { roomy with
    sessions := roomy.sessions.insert id ⟨id, calculator, unitSets, now, now, false⟩
    journal := .sessionCreated id calculator.kind.name :: roomy.journal },
    hev, ?_, hrecent, ?_, ?_, hev.limits.2.trans hcap⟩
  · simp only [create, hr, hev.room_left, if_true]
    rfl
  · refine values_insert_new (hev.keyed hkp) ⟨id, calculator, unitSets, now, now, false⟩ ?_
    intro t ht
    exact hid t (List.mem_filter.1 (hrecent.sublist.subset ht)).1
  · exact (hev.keyed hkp).insert
      (s := ⟨id, calculator, unitSets, now, now, false⟩) rfl rfl

/-- A session whose last access is now. -/
def seenAt (now : Instant) (s : Session) : Session := { s with accessed := now }

/-- **Looking a session up** finds the one of the id if it was not idle too long. -/
theorem get_cases (hk : p.Keyed) (id : String) (now purging : Instant) :
    (∃ t ∈ p.live purging, t.id = id ∧
      p.get id now purging = (some (seenAt now t),
        { p.purge purging with
          sessions := (p.purge purging).sessions.insert id (seenAt now t) })) ∨
    ((∀ t ∈ p.live purging, t.id ≠ id) ∧ p.get id now purging = (none, p.purge purging)) := by
  have hkp := hk.purge purging
  rw [← stored_purge]
  cases hg : (p.purge purging).sessions.get? id with
  | none =>
    refine .inr ⟨fun t ht hid => ?_, by simp only [get, hg]⟩
    rw [hkp.get?_eq_some_iff.2 ⟨ht, hid⟩] at hg
    cases hg
  | some t =>
    obtain ⟨ht, hid⟩ := hkp.get?_eq_some_iff.1 hg
    exact .inl ⟨t, ht, hid, by simp only [get, hg, seenAt]⟩

/-- A change of the session of one id. -/
def changed (id : String) (f : Session → Session) (s : Session) : Session :=
  if s.id = id then f s else s

theorem map_changed_of_forall {f : Session → Session} {ss : List Session}
    (h : ∀ s ∈ ss, s.id ≠ id) : ss.map (changed id f) = ss :=
  (List.map_congr_left fun s hs => if_neg (h s hs)).trans (List.map_id _)

/-- A session that takes the place of the one of its id changes that one. -/
theorem values_insert (h : p.Keyed) {t : Session} (ht : t ∈ p.stored) (f : Session → Session) :
    (p.sessions.insert t.id (f t)).values = p.stored.map (changed t.id f) := by
  have hk : t.id ∈ p.sessions.keys := by
    rw [h.keys_eq]
    exact List.mem_map_of_mem ht
  rw [Table.values, Table.entries_insert_of_mem hk, h.entries_eq, List.map_map, List.map_map]
  refine List.map_congr_left fun s hs => ?_
  by_cases he : s.id = t.id
  · cases h.unique hs ht he
    simp [changed]
  · simp [changed, he]

/-- **Looking a session up** changes the time of its last access and no other session. -/
theorem stored_get (hk : p.Keyed) (id : String) (now purging : Instant) :
    (p.get id now purging).2.stored = (p.live purging).map (changed id (seenAt now)) := by
  rcases get_cases hk id now purging with ⟨t, ht, rfl, hg⟩ | ⟨hnone, hg⟩
  · rw [hg, ← stored_purge]
    rw [← stored_purge] at ht
    exact values_insert (hk.purge purging) ht (seenAt now)
  · rw [hg, map_changed_of_forall hnone]
    exact stored_purge p purging

theorem Keyed.get (hk : p.Keyed) (id : String) (now purging : Instant) :
    (p.get id now purging).2.Keyed := by
  rcases get_cases hk id now purging with ⟨t, ht, rfl, hg⟩ | ⟨-, hg⟩
  · rw [hg]
    exact (hk.purge purging).insert (s := seenAt now t) rfl rfl
  · rw [hg]
    exact hk.purge purging

/-- A session as working with it leaves it: its calculator is the one that the work gives,
without its events, and it is not locked. -/
def worked {β : Type} (work : Session → Except Fault β × AnyCalculator) (s : Session) : Session :=
  { s with calculator := (takeJournal (work { s with locked := true }).2).2, locked := false }

/-- **Working with a session** looks it up, and changes no other session. -/
theorem use_spec {β : Type} (hk : p.Keyed) (id : String) (now purging : Instant)
    (work : Session → Except Fault β × AnyCalculator) :
    (p.use id now work purging).2.stored =
        (p.live purging).map (changed id (worked work ∘ seenAt now)) ∧
      (p.use id now work purging).2.Keyed ∧
      ((p.use id now work purging).1 = .error .notFound ↔ (p.get id now purging).1 = none) := by
  have hkg := hk.get id now purging
  have hstored := stored_get hk id now purging
  rcases get_cases hk id now purging with ⟨t, ht, rfl, hg⟩ | ⟨hnone, hg⟩
  · have hs : seenAt now t ∈ (p.get t.id now purging).2.stored := by
      rw [hstored]
      exact List.mem_map.2 ⟨t, ht, if_pos rfl⟩
    have hvalues := values_insert hkg hs (worked work)
    unfold use
    generalize p.get t.id now purging = found at *
    obtain ⟨o, g⟩ := found
    cases (Prod.mk.inj hg).1
    refine ⟨?_, hkg.insert (s := worked work (seenAt now t)) rfl rfl, ?_⟩
    · refine Eq.trans hvalues ?_
      rw [hstored, List.map_map]
      refine List.map_congr_left fun s _ => ?_
      by_cases he : s.id = t.id <;> simp [changed, he, seenAt]
    · refine iff_of_false (fun hresult => ?_) nofun
      obtain ⟨_, -, hfault⟩ := Except.mapError_eq_error_iff.1 hresult
      cases hfault
  · have huse : p.use id now work purging = (.error .notFound, p.purge purging) := by
      simp only [use, hg]
    rw [huse, hg, map_changed_of_forall hnone]
    exact ⟨stored_purge p purging, hk.purge purging, iff_of_true rfl rfl⟩

/-- **Removing an id** removes the session of that id and no other. -/
theorem stored_delete (hk : p.Keyed) (id : String) :
    (p.delete id).2.stored = p.stored.filter fun s => s.id ≠ id := by
  unfold delete
  split
  · exact values_erase hk id
  · rename_i h
    rw [Bool.not_eq_true, Table.contains_eq_false_iff, hk.keys_eq, List.mem_map] at h
    refine (List.filter_eq_self.2 fun s hs => ?_).symm
    simpa using fun he => h ⟨s, hs, he⟩

theorem Keyed.delete (hk : p.Keyed) (id : String) : (p.delete id).2.Keyed := by
  unfold SessionPool.delete
  split
  · exact hk.erase id rfl
  · exact hk

/-! ### The capacity is only changed on purpose -/

theorem capacity_get (p : SessionPool) (id : String) (now purging : Instant) :
    (p.get id now purging).2.capacity = p.capacity := by
  simp only [get]
  split <;> exact (limits_purge p purging).2

theorem capacity_use {β : Type} (p : SessionPool) (id : String) (now purging : Instant)
    (work : Session → Except Fault β × AnyCalculator) :
    (p.use id now work purging).2.capacity = p.capacity := by
  rw [← capacity_get p id now purging]
  unfold use
  split <;> rename_i h <;> rw [h]

theorem capacity_delete (p : SessionPool) (id : String) :
    (p.delete id).2.capacity = p.capacity := by
  unfold delete
  split <;> rfl

end SessionPool
end QuantityCalculus
