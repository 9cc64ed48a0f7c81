import LanWatch.Pending.Ring

namespace LanWatch

/-!
# The queue of pending sightings

What the slots of a ring mean to those who use them: a plain list with a limit, oldest sighting
first. Slots, positions and the flag that says that they are full do not appear.

* `Queue` — the list and what is counted beside it;
* `Keeper.Request`, `Keeper.Reply` — what can be asked of pending sightings;
* `Keeper.Glance` — what can be seen of them between two requests;
* `Keeper` — anything that keeps pending sightings, and `Keeper.run`, what it says to a list of
  requests;
* `Keeper.ring`, `Keeper.queue` — the slots and the plain list as keepers.
-/

/-- Pending sightings as a plain list. -/
structure Queue where
  /-- The most sightings that can be pending. -/
  limit : Nat
  overflow : Overflow
  /-- The pending sightings, oldest first. -/
  items : List Sighting
  /-- How often a sighting found no room. -/
  overruns : Nat
  /-- No consumer will wait any more. -/
  closed : Bool
  deriving DecidableEq

namespace Queue

/-- Nothing pending. -/
def empty (limit : Nat) (overflow : Overflow) : Queue :=
  ⟨limit, overflow, [], 0, false⟩

/-- Appends a sighting. -/
def append (q : Queue) (s : Sighting) : Queue :=
  { q with items := q.items ++ [s] }

/-- Removes the oldest sighting, if there is one. -/
def release (q : Queue) : Queue :=
  { q with items := q.items.tail }

/-- Counts a sighting that found no room. -/
def countOverrun (q : Queue) : Queue :=
  { q with overruns := q.overruns + 1 }

/-- Appends a sighting, unless it is suppressed or finds no room. -/
def push (q : Queue) (suppress : Bool) (s : Sighting) : Queue × PushOutcome :=
  if suppress && q.items.any (·.same s) then (q, .duplicate)
  else if q.items.length < q.limit then (q.append s, .stored)
  else match q.overflow with
    | .dropNew => (q.countOverrun, .dropped)
    | .evictOldest => (q.countOverrun.release.append s, .evicted)

/-- Removes every sighting. -/
def flush (q : Queue) : Queue :=
  { q with items := [] }

/-- Lets no consumer wait any more. -/
def close (q : Queue) : Queue :=
  { q with closed := true }

end Queue

/-! ### Requests and replies -/

namespace Keeper

/-- What can be asked of pending sightings. -/
inductive Request where
  | push (suppress : Bool) (s : Sighting)
  /-- The oldest sighting, which stays pending. With `wait`, by a consumer that is willing to
      wait. -/
  | pop (wait : Bool)
  | release
  | flush
  | close
  deriving DecidableEq

/-- What a request brings. -/
inductive Reply where
  | pushed (outcome : PushOutcome)
  | popped (s : Option Sighting)
  /-- The consumer would have to wait. -/
  | waiting
  | done
  deriving DecidableEq

/-- What can be seen of pending sightings between two requests. -/
structure Glance where
  size : Nat
  isEmpty : Bool
  full : Bool
  overruns : Nat
  deriving DecidableEq

end Keeper

/-- Anything that keeps pending sightings, in a state of type `σ`. -/
structure Keeper (σ : Type) where
  serve : σ → Keeper.Request → σ × Keeper.Reply
  glance : σ → Keeper.Glance

namespace Keeper

variable {σ : Type}

/-- The replies to a list of requests, each with what is seen after it. -/
def run (k : Keeper σ) (x : σ) : List Request → List (Reply × Glance)
  | [] => []
  | q :: qs => ((k.serve x q).2, k.glance (k.serve x q).1) :: k.run (k.serve x q).1 qs

/-- The reply to a consumer that looks at the oldest of some sightings. -/
def look (wait closed : Bool) (oldest : Option Sighting) : Reply :=
  match oldest with
  | some s => .popped (some s)
  | none => if wait && !closed then .waiting else .popped none

/-- The reply to a consumer that is willing to wait. -/
def ofAwaited : Ring.Awaited → Reply
  | .sighting s => .popped (some s)
  | .over => .popped none
  | .waiting => .waiting

/-- The slots of a ring. -/
def ring : Keeper Ring where
  serve
    | r, .push suppress s => ((r.push suppress s).1, .pushed (r.push suppress s).2)
    | r, .pop false => (r, .popped r.front?)
    | r, .pop true => (r, ofAwaited r.await)
    | r, .release => (r.release, .done)
    | r, .flush => (r.flush, .done)
    | r, .close => (r.close, .done)
  glance r := ⟨r.size, r.isEmpty, r.stats.full, r.overruns⟩

/-- The plain list. -/
def queue : Keeper Queue where
  serve
    | q, .push suppress s => ((q.push suppress s).1, .pushed (q.push suppress s).2)
    | q, .pop wait => (q, look wait q.closed q.items.head?)
    | q, .release => (q.release, .done)
    | q, .flush => (q.flush, .done)
    | q, .close => (q.close, .done)
  glance q := ⟨q.items.length, q.items.isEmpty, q.items.length == q.limit, q.overruns⟩

end Keeper

end LanWatch
