import LanWatch.Report.Handover
import Mathlib.Algebra.GroupWithZero.Nat

namespace LanWatch

/-!
# Several workers at the same slots

Any number of workers may drain the same slots, each into a sink of its own. None of them owns what
it has looked at: a worker looks at the oldest sighting, and when it releases a slot it is that of
the sighting which is the oldest then.

* `Deed` — what a step did, and which worker took it;
* `Crew`, `Crew.Turn`, `Crew.step`, `Crew.run` — the slots between a producer and several workers,
  and any order of their steps;
* `Crew.acts`, `Crew.actsOf` — what was done so far, by everybody and by one worker;
* `Crew.Alone`, `Crew.TakesTurns` — at most one worker is busy, now or at any time;
* `Crew.Ledger` — which sightings were stored, looked at, reported and released, by number.
-/

/-- What a step did, and the worker that took it, if it was one. -/
structure Deed (k : Nat) where
  worker : Option (Fin k)
  act : Act
  deriving DecidableEq

/-- The slots between a producer and `k` workers. -/
structure Crew (σ : Type) (k : Nat) where
  ring : Ring
  workers : Fin k → Worker σ
  /-- What was done so far, in order. -/
  deeds : List (Deed k) := []

namespace Crew

/-- Whose turn it is. -/
inductive Turn (k : Nat) where
  /-- The producer stores a sighting. -/
  | push (suppress : Bool) (s : Sighting)
  /-- The slots are closed. -/
  | close
  /-- A worker takes its next step, if it has one. -/
  | work (i : Fin k)
  deriving DecidableEq

variable {σ : Type} {k : Nat}

/-- Nothing was done yet. -/
def start (ring : Ring) (states : Fin k → σ) : Crew σ k :=
  { ring, workers := fun i => { state := states i } }

/-- What was done so far, whoever did it. -/
def acts (c : Crew σ k) : List Act :=
  c.deeds.map Deed.act

/-- What one of the workers did so far. -/
def actsOf (c : Crew σ k) (i : Fin k) : List Act :=
  c.deeds.filterMap fun d => if d.worker = some i then some d.act else none

/-- How many sightings the workers are done with, all together. -/
def handled (c : Crew σ k) : Nat :=
  ((List.finRange k).map fun i => (c.workers i).handled).sum

/-- One step. -/
def step (sinks : Fin k → Sink σ) (c : Crew σ k) : Turn k → Crew σ k
  | .push suppress s =>
    let (ring, outcome) := c.ring.push suppress s
    { c with ring, deeds := c.deeds ++ [⟨none, .pushed s outcome⟩] }
  | .close => { c with ring := c.ring.close, deeds := c.deeds ++ [⟨none, .closed⟩] }
  | .work i =>
    match (c.workers i).step (sinks i) c.ring with
    | none => c
    | some (ring, worker, act) =>
      { ring
        workers := fun j => if j = i then worker else c.workers j
        deeds := c.deeds ++ [⟨some i, act⟩] }

/-- Steps in a given order. -/
def run (sinks : Fin k → Sink σ) (c : Crew σ k) (turns : List (Turn k)) : Crew σ k :=
  turns.foldl (step sinks) c

/-- The producer and the workers take turns in some order, then the slots are closed, and then the
    workers go on without the producer. -/
def untilClosed (before : List (Turn k)) (after : List (Fin k)) : List (Turn k) :=
  before ++ .close :: after.map .work

/-- At most one worker is busy. -/
def Alone (c : Crew σ k) : Prop :=
  ∀ i j, (c.workers i).stage.busy = true → (c.workers j).stage.busy = true → i = j

/-- No worker ever looks at a sighting while another one is busy. -/
def TakesTurns (sinks : Fin k → Sink σ) (c : Crew σ k) (turns : List (Turn k)) : Prop :=
  ∀ begun, begun <+: turns → (c.run sinks begun).Alone

/-! ### What became of each sighting -/

/-- Sightings that were stored, by number: the first one has number 0. They leave the slots in the
    order in which they came. -/
structure Ledger (k : Nat) where
  /-- The sightings that were stored, with or without an eviction. -/
  accepted : List Sighting := []
  /-- How many of them have left the slots. -/
  departures : Nat := 0
  /-- The numbers of the sightings that workers looked at. -/
  looks : List Nat := []
  /-- The number of the sighting that each worker looked at last. -/
  looked : Fin k → Nat := fun _ => 0
  /-- The numbers of the sightings that were given to a sink. -/
  reported : List Nat := []

namespace Ledger

/-- Enters what a step did. Releasing a slot when there is none to release changes nothing. -/
def enter (l : Ledger k) : Deed k → Ledger k
  | ⟨_, .pushed s .stored⟩ => { l with accepted := l.accepted ++ [s] }
  | ⟨_, .pushed s .evicted⟩ =>
    { l with accepted := l.accepted ++ [s], departures := l.departures + 1 }
  | ⟨some i, .looked _⟩ =>
    { l with
      looks := l.looks ++ [l.departures]
      looked := fun j => if j = i then l.departures else l.looked j }
  | ⟨some i, .reported _ _⟩ => { l with reported := l.reported ++ [l.looked i] }
  | ⟨_, .released⟩ => { l with departures := min (l.departures + 1) l.accepted.length }
  | _ => l

/-- The ledger of a list of deeds. -/
def ofDeeds (deeds : List (Deed k)) : Ledger k :=
  deeds.foldl enter {}

end Ledger

/-- The ledger of what was done so far. -/
def ledger (c : Crew σ k) : Ledger k :=
  .ofDeeds c.deeds

end Crew

end LanWatch
