import LanWatch.Report.Drain

namespace LanWatch

/-!
# Handing sightings over

While the capture stores sightings, a worker takes them out and reports them. The worker looks at
the oldest pending sighting, reports its copy, and only then releases a slot. Each of these is one
step under the lock of the slots, or none at all, and between any two of them anything may happen to
the slots.

* `Worker`, `Worker.step` — a worker's place in its loop, and its next step;
* `Turn`, `Handover`, `Handover.step`, `Handover.run` — the slots between a producer and a worker,
  and any order of their steps;
* `Act` — what a step did, as those who took it saw it;
* `Ledger` — which sightings were stored, reported, evicted and released, by number;
* `Handover.overtaken` — a sighting was evicted while the worker was busy with one.
-/

/-! ### The worker -/

/-- Where a worker stands in its loop. -/
inductive Stage where
  /-- It is about to look at the oldest pending sighting, or waits for one. -/
  | looking
  /-- It has a copy of a sighting, which it is about to report. -/
  | holding (s : Sighting)
  /-- It has reported a sighting and is about to release a slot. -/
  | releasing
  /-- It has returned. -/
  | finished
  deriving DecidableEq

/-- The worker is between looking at a sighting and releasing a slot. -/
def Stage.busy : Stage → Bool
  | holding _ | releasing => true
  | looking | finished => false

/-- A worker that drains the slots into a sink with a state of type `σ`. -/
structure Worker (σ : Type) where
  stage : Stage := .looking
  /-- How many sightings it is done with. -/
  handled : Nat := 0
  state : σ
  log : Log := []

/-- What a step did. -/
inductive Act where
  /-- The producer stored a sighting, or tried to. -/
  | pushed (s : Sighting) (outcome : PushOutcome)
  /-- The slots were closed. -/
  | closed
  /-- The worker looked at a sighting. -/
  | looked (s : Sighting)
  /-- The worker gave a sighting to the sink. -/
  | reported (s : Sighting) (error : Option SinkError)
  /-- The worker released a slot. -/
  | released
  /-- The worker returned the number of sightings that it was done with. -/
  | returned (handled : Nat)
  deriving DecidableEq

namespace Worker

variable {σ : Type}

/-- The next step of a worker: what it leaves of the slots and of the worker, and what it did. There
    is none while the worker waits, and none after it has returned. -/
def step (sink : Sink σ) (w : Worker σ) (r : Ring) : Option (Ring × Worker σ × Act) :=
  match w.stage with
  | .looking =>
    match r.await with
    | .sighting s => some (r, { w with stage := .holding s }, .looked s)
    | .over =>
      some (r, { w with stage := .finished, log := w.log ++ [drainedEvent w.handled] },
        .returned w.handled)
    | .waiting => none
  | .holding s =>
    let reported := sink.report s w.state
    let log := w.log ++ (reported.log ++ reported.error.toList.map (failedReportEvent s))
    some (r, { w with stage := .releasing, state := reported.state, log },
      .reported s reported.error)
  | .releasing =>
    some (r.release, { w with stage := .looking, handled := w.handled + 1 }, .released)
  | .finished => none

end Worker

/-! ### Any order of steps -/

/-- Whose turn it is. -/
inductive Turn where
  /-- The producer stores a sighting. -/
  | push (suppress : Bool) (s : Sighting)
  /-- The slots are closed. -/
  | close
  /-- The worker takes its next step, if it has one. -/
  | work
  deriving DecidableEq

/-- The slots between a producer and a worker. -/
structure Handover (σ : Type) where
  ring : Ring
  worker : Worker σ
  /-- What was done so far, in order. -/
  acts : List Act := []

namespace Handover

variable {σ : Type}

/-- Nothing was done yet. -/
def start (ring : Ring) (state : σ) : Handover σ :=
  { ring, worker := { state } }

/-- One step. -/
def step (sink : Sink σ) (h : Handover σ) : Turn → Handover σ
  | .push suppress s =>
    let (ring, outcome) := h.ring.push suppress s
    { h with ring, acts := h.acts ++ [.pushed s outcome] }
  | .close => { h with ring := h.ring.close, acts := h.acts ++ [.closed] }
  | .work =>
    match h.worker.step sink h.ring with
    | none => h
    | some (ring, worker, act) => ⟨ring, worker, h.acts ++ [act]⟩

/-- Steps in a given order. -/
def run (sink : Sink σ) (h : Handover σ) (turns : List Turn) : Handover σ :=
  turns.foldl (step sink) h

/-- The producer and the worker take turns in some order, then the slots are closed, and then the
    worker goes on alone. -/
def untilClosed (before : List Turn) (n : Nat) : List Turn :=
  before ++ .close :: List.replicate n .work

/-- A turn makes the producer evict a sighting. -/
def evicts (h : Handover σ) : Turn → Bool
  | .push suppress s => (h.ring.push suppress s).2 == .evicted
  | .close | .work => false

/-- At one of the turns a sighting is evicted while the worker is busy with one. -/
def overtaken (sink : Sink σ) (h : Handover σ) : List Turn → Bool
  | [] => false
  | t :: ts => (h.worker.stage.busy && h.evicts t) || overtaken sink (h.step sink t) ts

end Handover

/-! ### What became of each sighting -/

/-- The sightings whose store was answered with `stored`, in order. -/
def storedIn (acts : List Act) : List Sighting :=
  acts.filterMap fun
    | .pushed s .stored => some s
    | _ => none

/-- The sightings that were given to the sink, in order. -/
def reportedIn (acts : List Act) : List Sighting :=
  acts.filterMap fun
    | .reported s _ => some s
    | _ => none

/-- What the sink answered to each of them. -/
def answersIn (acts : List Act) : List (Option SinkError) :=
  acts.filterMap fun
    | .reported _ error => some error
    | _ => none

/-- How often the worker released a slot. -/
def releasesIn (acts : List Act) : Nat :=
  acts.count .released

/-- How a sighting left the slots. -/
inductive Departure where
  /-- The oldest sighting made room for a new one, which was counted as an overrun. -/
  | evicted
  /-- The worker released the slot, having looked last at the sighting with number `looked`; and
      since it looked, `evictions` sightings had been evicted. -/
  | released (looked evictions : Nat)
  deriving DecidableEq

/-- Sightings that were stored, by number: the first one has number 0. They leave the slots in the
    order in which they came, so the first departure is that of number 0. -/
structure Ledger where
  /-- The sightings that were stored, with or without an eviction. -/
  accepted : List Sighting := []
  /-- How sightings left the slots, oldest first. -/
  departures : List Departure := []
  /-- The numbers of the sightings that were given to the sink. -/
  reported : List Nat := []
  /-- The number of the sighting that the worker looked at last. -/
  looked : Nat := 0
  /-- How many sightings were evicted since then. -/
  evictions : Nat := 0
  deriving DecidableEq

namespace Ledger

/-- Enters what a step did. -/
def enter (l : Ledger) : Act → Ledger
  | .pushed s .stored => { l with accepted := l.accepted ++ [s] }
  | .pushed s .evicted =>
    { l with
      accepted := l.accepted ++ [s]
      departures := l.departures ++ [.evicted]
      evictions := l.evictions + 1 }
  | .pushed _ .dropped | .pushed _ .duplicate => l
  | .closed => l
  | .looked _ => { l with looked := l.departures.length, evictions := 0 }
  | .reported _ _ => { l with reported := l.reported ++ [l.looked] }
  | .released => { l with departures := l.departures ++ [.released l.looked l.evictions] }
  | .returned _ => l

/-- The ledger of a list of acts. -/
def ofActs (acts : List Act) : Ledger :=
  acts.foldl enter {}

/-- A sighting was reported, or evicted and so counted as an overrun. -/
def AccountedFor (l : Ledger) (number : Nat) : Prop :=
  number ∈ l.reported ∨ l.departures[number]? = some .evicted

instance (l : Ledger) (number : Nat) : Decidable (l.AccountedFor number) :=
  inferInstanceAs (Decidable (_ ∨ _))

end Ledger

/-- The ledger of what was done so far. -/
def Handover.ledger {σ : Type} (h : Handover σ) : Ledger :=
  .ofActs h.acts

end LanWatch
