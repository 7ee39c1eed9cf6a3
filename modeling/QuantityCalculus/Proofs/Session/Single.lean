/-
# One session of a pool

What the operations of a pool do to the session under one id: a session that was idle too long is
dropped, an operation on another id leaves it as it is, and starting a session leaves it unless the
log says that it was evicted, which it is not where there is room. An operation on the id itself
gives the same and leaves the same in any two pools that have the same session there.

**Main statements.** `get?_purge`, `get?_evict`, `get?_create_of_not_logged`, `create_of_logged` and
`not_evicted_of_room`, `get?_use_of_ne`, `use_congr` and `use_of_get?`, `get?_delete_of_ne` and
`delete_congr`.
-/

import QuantityCalculus.Proofs.Session.Stored

namespace QuantityCalculus
namespace SessionPool

variable {p q : SessionPool} {id other : String} {now purging : Instant} {e : Event}

/-! ### Purging and evicting -/

/-- A session is there after purging if it was not idle too long. -/
theorem get?_purge (p : SessionPool) (now : Instant) (id : String) :
    (p.purge now).sessions.get? id =
      (p.sessions.get? id).filter fun s => !s.expired p.ttl now := by
  refine Option.ext fun s => ?_
  rw [Table.get?_eq_some_iff, sessions_purge, List.mem_filter, ← Table.get?_eq_some_iff,
    Option.filter_eq_some_iff]
  simp [Session.expired]

/-- What purging logs tells how many sessions were dropped. -/
theorem mem_journal_purge (he : ∀ n, e ≠ .sessionsPurged n) :
    e ∈ (p.purge now).journal ↔ e ∈ p.journal := by
  unfold purge
  split
  · rfl
  · exact List.mem_cons.trans (or_iff_right (he _))

theorem journal_subset_evict (rounds : Nat) (p : SessionPool) :
    p.journal ⊆ (evict rounds p).journal := by
  induction rounds generalizing p with
  | zero => exact List.Subset.refl _
  | succ rounds ih =>
    rw [evict]
    split
    · exact List.Subset.refl _
    · split
      · exact List.Subset.refl _
      · exact fun e he => ih _ (List.mem_cons_of_mem _ he)

/-- What evicting logs tells which sessions were evicted. -/
theorem mem_journal_evict (he : ∀ id, e ≠ .sessionEvicted id) (rounds : Nat) (p : SessionPool) :
    e ∈ (evict rounds p).journal ↔ e ∈ p.journal := by
  induction rounds generalizing p with
  | zero => rfl
  | succ rounds ih =>
    rw [evict]
    split
    · rfl
    · split
      · rfl
      · exact (ih _).trans (List.mem_cons.trans (or_iff_right (he _)))

/-- **A session stays** unless the log says that it was evicted. -/
theorem get?_evict {rounds : Nat} {p : SessionPool}
    (h : .sessionEvicted id ∉ (evict rounds p).journal) :
    (evict rounds p).sessions.get? id = p.sessions.get? id := by
  induction rounds generalizing p with
  | zero => rfl
  | succ rounds ih =>
    rw [evict] at h ⊢
    split
    · rfl
    · rename_i hfull
      rw [if_neg hfull] at h
      split
      · rfl
      · rename_i s hs
        rw [hs] at h
        dsimp only at h
        refine (ih h).trans ((Table.get?_erase ..).trans (if_neg ?_))
        rintro rfl
        exact h (journal_subset_evict _ _ (List.mem_cons_self ..))

/-! ### Starting a session -/

/-- **Starting a session** drops idle ones and makes room; then it is stored, if there is room. -/
theorem create_cases (p : SessionPool) (id : String) (calculator : AnyCalculator)
    (unitSets : List String) (now purging : Instant) :
    let roomy := evict (p.purge purging).sessions.size (p.purge purging)
    (∃ m, p.create id calculator unitSets now purging = (.error m, roomy)) ∨
      p.create id calculator unitSets now purging =
        (.ok ⟨id, calculator, unitSets, now, now, false⟩, { roomy with
          sessions := roomy.sessions.insert id ⟨id, calculator, unitSets, now, now, false⟩
          journal := .sessionCreated id calculator.kind.name :: roomy.journal }) := by
  intro roomy
  unfold create
  dsimp only
  split
  · exact .inr rfl
  · exact .inl ⟨_, rfl⟩

/-- **Where another session is started,** a session stays unless the log says that it was
evicted. -/
theorem get?_create_of_not_logged {calculator : AnyCalculator} {unitSets : List String}
    (hevicted : .sessionEvicted id ∉ (p.create other calculator unitSets now purging).2.journal)
    (hcreated : ∀ kind, .sessionCreated id kind ∉
      (p.create other calculator unitSets now purging).2.journal) :
    (p.create other calculator unitSets now purging).2.sessions.get? id =
      (p.purge purging).sessions.get? id := by
  rcases create_cases p other calculator unitSets now purging with ⟨m, h⟩ | h
  · rw [h] at hevicted ⊢
    exact get?_evict hevicted
  · rw [h] at hevicted hcreated ⊢
    have hne : other ≠ id := by
      rintro rfl
      exact hcreated _ (List.mem_cons_self ..)
    exact (Table.get?_insert ..).trans ((if_neg hne).trans
      (get?_evict fun h => hevicted (List.mem_cons_of_mem _ h)))

/-- **A session is started under an id** if the log says so: then it is new in every respect, and
the id is the one that was to be given. -/
theorem create_of_logged {calculator : AnyCalculator} {unitSets : List String} {kind : String}
    (hbefore : .sessionCreated id kind ∉ p.journal)
    (hcreated : .sessionCreated id kind ∈
      (p.create other calculator unitSets now purging).2.journal) :
    other = id ∧
      (p.create other calculator unitSets now purging).1 =
        .ok ⟨id, calculator, unitSets, now, now, false⟩ ∧
      (p.create other calculator unitSets now purging).2.sessions.get? id =
        some ⟨id, calculator, unitSets, now, now, false⟩ := by
  have hroomy : .sessionCreated id kind ∉
      (evict (p.purge purging).sessions.size (p.purge purging)).journal := by
    rw [mem_journal_evict (fun _ h => by cases h), mem_journal_purge (fun _ h => by cases h)]
    exact hbefore
  rcases create_cases p other calculator unitSets now purging with ⟨m, h⟩ | h
  · rw [h] at hcreated
    exact absurd hcreated hroomy
  · rw [h] at hcreated ⊢
    rcases List.mem_cons.1 hcreated with he | hmem
    · cases he
      exact ⟨rfl, rfl, (Table.get?_insert ..).trans (if_pos rfl)⟩
    · exact absurd hmem hroomy

/-! ### How many sessions there are -/

theorem size_purge_le (p : SessionPool) (now : Instant) :
    (p.purge now).sessions.size ≤ p.sessions.size := by
  unfold Table.size
  rw [sessions_purge]
  exact List.length_filter_le _ _

theorem size_evict_le (rounds : Nat) (p : SessionPool) :
    (evict rounds p).sessions.size ≤ p.sessions.size := by
  induction rounds generalizing p with
  | zero => exact Nat.le_refl _
  | succ rounds ih =>
    rw [evict]
    split
    · exact Nat.le_refl _
    · split
      · exact Nat.le_refl _
      · exact Nat.le_trans (ih _) (Table.size_erase_le _ _)

/-- Starting a session adds at most one. -/
theorem size_create_le (p : SessionPool) (id : String) (calculator : AnyCalculator)
    (unitSets : List String) (now purging : Instant) :
    (p.create id calculator unitSets now purging).2.sessions.size ≤ p.sessions.size + 1 := by
  have hroomy : (evict (p.purge purging).sessions.size (p.purge purging)).sessions.size ≤
      p.sessions.size :=
    Nat.le_trans (size_evict_le _ _) (size_purge_le p purging)
  rcases create_cases p id calculator unitSets now purging with ⟨m, h⟩ | h
  · rw [h]
    exact Nat.le_trans hroomy (Nat.le_succ _)
  · rw [h]
    exact Nat.le_trans (Table.size_insert_le _ _ _) (Nat.succ_le_succ hroomy)

/-- No session is evicted where there is room, or none to evict. -/
theorem evict_of_room {rounds : Nat} (h : rounds = 0 ∨ (p.sessions.size : Int) < p.capacity) :
    evict rounds p = p := by
  cases rounds with
  | zero => rfl
  | succ rounds =>
    rw [evict]
    exact if_pos (h.resolve_left (Nat.succ_ne_zero rounds))

/-- **No session is evicted** where a session is started with room for it, or without others. -/
theorem not_evicted_of_room {calculator : AnyCalculator} {unitSets : List String}
    (hroom : p.sessions.size = 0 ∨ (p.sessions.size : Int) < p.capacity)
    (hjournal : p.journal = []) :
    .sessionEvicted id ∉ (p.create other calculator unitSets now purging).2.journal := by
  have hsize := size_purge_le p purging
  have hroomy : evict (p.purge purging).sessions.size (p.purge purging) = p.purge purging := by
    refine evict_of_room ?_
    rw [(limits_purge p purging).2]
    omega
  have hpurge : .sessionEvicted id ∉ (p.purge purging).journal := by
    rw [mem_journal_purge (fun _ h => by cases h), hjournal]
    exact List.not_mem_nil
  rcases create_cases p other calculator unitSets now purging with ⟨m, h⟩ | h
  · rw [h, hroomy]
    exact hpurge
  · rw [h, hroomy]
    exact fun hmem => hpurge ((List.mem_cons.1 hmem).resolve_left nofun)

/-! ### Other operations -/

/-- **Working with another session** only drops idle ones. -/
theorem get?_use_of_ne {β : Type} (h : other ≠ id) (p : SessionPool) (now purging : Instant)
    (work : Session → Except Fault β × AnyCalculator) :
    (p.use id now work purging).2.sessions.get? other = (p.purge purging).sessions.get? other := by
  unfold use get
  dsimp only
  cases (p.purge purging).sessions.get? id with
  | none => rfl
  | some s =>
    dsimp only
    rw [Table.get?_insert, if_neg h.symm, Table.get?_insert, if_neg h.symm]

/-- **Working with a session** depends on what is there after purging, and on nothing else. -/
theorem use_congr {β : Type} (h : (q.purge purging).sessions.get? id =
      (p.purge purging).sessions.get? id) (now : Instant)
    (work : Session → Except Fault β × AnyCalculator) :
    (q.use id now work purging).1 = (p.use id now work purging).1 ∧
      (q.use id now work purging).2.sessions.get? id =
        (p.use id now work purging).2.sessions.get? id := by
  unfold use get
  dsimp only
  rw [h]
  cases hs : (p.purge purging).sessions.get? id with
  | none => exact ⟨rfl, h⟩
  | some s =>
    dsimp only
    simp only [Table.get?_insert, if_true, and_self]

/-- **Working with a session that is there** after purging gives what the work gives and leaves the
session as the work leaves it. -/
theorem use_of_get? {β : Type} {s : Session} (h : (p.purge purging).sessions.get? id = some s)
    (now : Instant) (work : Session → Except Fault β × AnyCalculator) :
    (p.use id now work purging).1 =
        (work { seenAt now s with locked := true }).1.mapError .fault ∧
      (p.use id now work purging).2.sessions.get? id = some (worked work (seenAt now s)) := by
  unfold use get
  dsimp only
  rw [h]
  dsimp only
  simp only [Table.get?_insert, if_true]
  exact ⟨rfl, rfl⟩

theorem use_of_none {β : Type} (h : (p.purge purging).sessions.get? id = none) (now : Instant)
    (work : Session → Except Fault β × AnyCalculator) :
    (p.use id now work purging).1 = .error .notFound := by
  unfold use get
  dsimp only
  rw [h]

theorem get?_delete_of_ne (h : other ≠ id) (p : SessionPool) :
    (p.delete id).2.sessions.get? other = p.sessions.get? other := by
  unfold delete
  split
  · exact (Table.get?_erase ..).trans (if_neg h.symm)
  · rfl

/-- **Removing a session** tells whether it was there, and it is there no more. -/
theorem delete_congr (h : q.sessions.get? id = p.sessions.get? id) :
    (q.delete id).1 = (p.delete id).1 ∧
      (q.delete id).2.sessions.get? id = (p.delete id).2.sessions.get? id := by
  unfold delete Table.contains
  rw [h]
  split
  · exact ⟨rfl, by simp [record]⟩
  · exact ⟨rfl, h⟩

end SessionPool
end QuantityCalculus
