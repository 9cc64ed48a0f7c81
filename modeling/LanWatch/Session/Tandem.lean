import LanWatch.Capture.Running
import LanWatch.Report.Handover

namespace LanWatch

/-!
# Capturing and reporting at the same time

A running session has two threads. One captures: it asks the source, decodes what it gets, and
stores one record after another. The other is a worker that reports what is pending. Once the
capture is over the slots are closed. The threads share nothing but the slots. Storing one record is
one step, and before and after it the worker may take any of its own.

* `Producer` — a capture's place in its loop, and what it has counted;
* `Producer.ask`, `Producer.countStored`, `Producer.sayStats` — its steps, the stores apart;
* `Tandem` — a producer, the slots, and a worker;
* `Tandem.Turn`, `Tandem.step`, `Tandem.run` — their steps, in any order.
-/

/-! ### The producer -/

/-- Where a producer stands in its loop. -/
inductive Producer.Stage where
  /-- It is about to look at the running flag. -/
  | asking
  /-- It has an answer of the source, and these of its records are still to be stored. -/
  | storing (rest : List Sighting) (statsDue : Bool)
  /-- It has returned. -/
  | returned (result : Except CaptureError Summary)

/-- The producer has returned. -/
def Producer.Stage.hasReturned : Stage → Bool
  | returned _ => true
  | asking | storing _ _ => false

/-- A thread that captures from a source with a state of type `σ`. -/
structure Producer (σ : Type) where
  stage : Producer.Stage := .asking
  summary : Summary := {}
  /-- The state of the source. -/
  state : σ
  /-- How many requests have been made. -/
  reads : Nat := 0
  log : Log

namespace Producer

variable {σ : Type}

/-- A producer that has not asked for anything yet. -/
def start (source : Source σ) (state : σ) : Producer σ :=
  { state, log := [startEvent source.name] }

/-- The end of a capture that was stopped, or whose source is closed. -/
def finish (name : String) (p : Producer σ) : Producer σ :=
  { p with stage := .returned (.ok p.summary), log := p.log ++ [finishedEvent name p.summary] }

/-- The end of a capture whose source broke down. -/
def fail (e : CaptureError) (p : Producer σ) : Producer σ :=
  { p with stage := .returned (.error e) }

/-- A frame is counted and decoded. Its records are still to be stored. -/
def takeFrame (policy : VlanPolicy) (p : Producer σ) (f : Frame) (statsDue : Bool) : Producer σ :=
  let dissection := dissect policy f.seen f.data
  { p with
    stage := .storing dissection.sightings statsDue
    summary := p.summary.countFrame dissection.error
    log := p.log ++ (dissection.log ++ dissection.error.toList.map stoppedEvent) }

/-- What a delivery makes of a producer. -/
def deal (name : String) (policy : VlanPolicy) (p : Producer σ) (d : Delivery) : Producer σ :=
  match d.answer with
  | .frame f => p.takeFrame policy f d.statsDue
  | .idle => { p with stage := .storing [] d.statsDue }
  | .closed => finish name { p with log := p.log ++ [closedEvent name] }
  | .failed e => p.fail e
  | .died => p.fail .workerDied

/-- A look at the flag, a request, and the decoding of what it brings. -/
def ask (source : Source σ) (signals : Signals) (policy : VlanPolicy) (p : Producer σ) :
    Producer σ :=
  if signals.running p.reads then
    let (answer, state) := source.read p.state
    deal source.name policy { p with state, reads := p.reads + 1 }
      { answer, statsDue := signals.statsDue p.reads }
  else p.finish source.name

/-- Counts what became of a record, and goes on with the others. -/
def countStored (p : Producer σ) (rest : List Sighting) (statsDue : Bool) (outcome : PushOutcome) :
    Producer σ :=
  { p with stage := .storing rest statsDue, summary := p.summary.countPush outcome }

/-- Says how full the slots are if that is due, and goes on to the next request. -/
def sayStats (p : Producer σ) (statsDue : Bool) (ring : Ring) : Producer σ :=
  { p with stage := .asking, log := if statsDue then p.log ++ statsLog ring else p.log }

end Producer

/-! ### Both threads -/

/-- A producer and a worker at the same slots. -/
structure Tandem (σ τ : Type) where
  producer : Producer σ
  handover : Handover τ

namespace Tandem

/-- Whose turn it is. -/
inductive Turn where
  /-- The producer takes its next step, if it has one. -/
  | produce
  /-- The slots are closed, if the producer has returned. -/
  | close
  /-- The worker takes its next step, if it has one. -/
  | work
  deriving DecidableEq

variable {σ τ : Type} (source : Source σ) (signals : Signals) (policy : VlanPolicy) (sink : Sink τ)

/-- Nothing was done yet. -/
def start (state : σ) (ring : Ring) (kept : τ) : Tandem σ τ :=
  { producer := .start source state, handover := .start ring kept }

/-- The next step of the producer. A record is stored in one step, and statistics are one look at
    the slots. -/
def produce (t : Tandem σ τ) : Tandem σ τ :=
  match t.producer.stage with
  | .asking => { t with producer := t.producer.ask source signals policy }
  | .storing (s :: rest) statsDue =>
    { producer := t.producer.countStored rest statsDue (t.handover.ring.push true s).2
      handover := t.handover.step sink (.push true s) }
  | .storing [] statsDue =>
    { t with producer := t.producer.sayStats statsDue t.handover.ring }
  | .returned _ => t

/-- One step. -/
def step (t : Tandem σ τ) : Turn → Tandem σ τ
  | .produce => t.produce source signals policy sink
  | .close =>
    if t.producer.stage.hasReturned then { t with handover := t.handover.step sink .close } else t
  | .work => { t with handover := t.handover.step sink .work }

/-- Steps in a given order. -/
def run (t : Tandem σ τ) (turns : List Turn) : Tandem σ τ :=
  turns.foldl (step source signals policy sink) t

end Tandem

end LanWatch
