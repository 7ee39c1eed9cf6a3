/-
# Sessions

A session is a calculator that belongs to a client. The pool keeps sessions in the order
in which they were created, drops those that were idle for longer than the time to live
when it is next looked into, and keeps within its capacity by evicting the session whose
last access is the longest ago, of equals the one created first.

Every operation takes the moment at which it happens. One that also drops idle sessions
looks at the clock once more for that, and takes that moment too: it is the same one unless
the caller says otherwise.
-/

import QuantityCalculus.Calculator.Any
import QuantityCalculus.Session.Instant

namespace QuantityCalculus

/-- A calculator that belongs to a client. -/
structure Session where
  id : String
  calculator : AnyCalculator
  unitSets : List String
  created : Instant
  accessed : Instant
  /-- whether someone is working with the calculator -/
  locked : Bool := false

namespace Session

/-- A session and its calculator for a reader. -/
def describe (s : Session) : List (String × Json) :=
  [("session_id", .str s.id), ("unit_sets", .arr (s.unitSets.map .str)),
    ("created_at", .str s.created.text), ("last_accessed", .str s.accessed.text)] ++
    s.calculator.get fun c => c.describe

/-- Whether a session was idle for longer than the time to live. -/
def expired (ttl : Span) (now : Instant) (s : Session) : Bool := ttl < now - s.accessed

end Session

/-- The sessions by id, under their limits. -/
structure SessionPool where
  ttl : Span := 1800000000
  capacity : Int := 256
  sessions : Table String Session := .empty
  /-- events since the journal was last taken, the newest first -/
  journal : List Event := []

/-- Why a session cannot be worked with. -/
inductive SessionFault where
  | notFound
  | fault (cause : Fault)

namespace SessionPool

/-- The wording for a session that is not there. -/
def notFoundMessage : String := "Session expired or not found"

/-- The id of the `n`-th session: 32 hexadecimal digits. -/
def idOf (n : Nat) : String := String.ofList (Text.hex 32 n)

/-- Records an event. -/
def record (p : SessionPool) (event : Event) : SessionPool :=
  { p with journal := event :: p.journal }

/-- Changes the limits. -/
def configure (p : SessionPool) (ttl : Span) (capacity : Int) : SessionPool :=
  { p with ttl, capacity }

/-- The ids of the sessions that were idle too long. -/
def expiredIds (p : SessionPool) (now : Instant) : List String :=
  (p.sessions.toList.filter fun e => e.2.expired p.ttl now).map Prod.fst

/-- Drops the sessions that were idle too long. -/
def purge (p : SessionPool) (now : Instant) : SessionPool :=
  match p.expiredIds now with
  | [] => p
  | ids =>
    { p with
      sessions := ids.foldl Table.erase p.sessions
      journal := .sessionsPurged ids.length :: p.journal }

/-- The session of two whose access is longer ago, the first one when they are equal. -/
def older (a b : Session) : Session := if b.accessed < a.accessed then b else a

/-- The session whose last access is the longest ago. -/
def oldest? : List Session → Option Session
  | [] => none
  | s :: rest => some (rest.foldl older s)

/-- Evicts sessions until there is room for one more. `fuel` bounds their number. -/
def evict : Nat → SessionPool → SessionPool
  | 0, p => p
  | fuel + 1, p =>
    if (p.sessions.size : Int) < p.capacity then p
    else match oldest? p.sessions.values with
      | none => p
      | some s =>
        evict fuel ({ p with sessions := p.sessions.erase s.id }.record (.sessionEvicted s.id))

/-- Starts a session under a new id. A pool without any capacity takes none. -/
def create (p : SessionPool) (id : String) (calculator : AnyCalculator) (unitSets : List String)
    (now : Instant) (purging : Instant := now) : Except Misuse Session × SessionPool :=
  let p := p.purge purging
  let p := evict p.sessions.size p
  if (p.sessions.size : Int) < p.capacity then
    let s : Session := ⟨id, calculator, unitSets, now, now, false⟩
    let p := { p with sessions := p.sessions.insert id s }
    (.ok s, p.record (.sessionCreated id calculator.kind.name))
  else (.error .noCapacity, p)

/-- The session of an id, whose access is now. -/
def get (p : SessionPool) (id : String) (now : Instant) (purging : Instant := now) :
    Option Session × SessionPool :=
  let p := p.purge purging
  match p.sessions.get? id with
  | none => (none, p)
  | some s =>
    let s := { s with accessed := now }
    (some s, { p with sessions := p.sessions.insert id s })

/-- The events of a calculator, the newest first, and the calculator without them. -/
def takeJournal (a : AnyCalculator) : List Event × AnyCalculator :=
  match a with
  | .real c => (c.journal, .real { c with journal := [] })
  | .complex c => (c.journal, .complex { c with journal := [] })

/-- Works with the session of an id while it is locked; its events go to the pool. -/
def use {β : Type} (p : SessionPool) (id : String) (now : Instant)
    (work : Session → Except Fault β × AnyCalculator) (purging : Instant := now) :
    Except SessionFault β × SessionPool :=
  match p.get id now purging with
  | (none, p) => (.error .notFound, p)
  | (some s, p) =>
    let (result, calculator) := work { s with locked := true }
    let (events, calculator) := takeJournal calculator
    let s := { s with calculator, locked := false }
    (result.mapError .fault,
      { p with sessions := p.sessions.insert id s, journal := events ++ p.journal })

/-- Removes the session of an id; tells whether there was one. -/
def delete (p : SessionPool) (id : String) : Bool × SessionPool :=
  if p.sessions.contains id then
    (true, { p with sessions := p.sessions.erase id }.record (.sessionDeleted id))
  else (false, p)

/-- Removes all sessions. -/
def clear (p : SessionPool) : SessionPool := { p with sessions := .empty }

end SessionPool
end QuantityCalculus
