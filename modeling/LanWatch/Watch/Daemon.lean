import LanWatch.Session.Tandem
import LanWatch.Watch.Run

namespace LanWatch

/-!
# The threads of a running program

Once everything is opened, three threads are at work. The main thread tells the sink the name of the
interface, starts a worker and then a producer, and waits for the producer to return. It closes the
slots, waits for the worker, and only then gives its answer, also if the capture failed. The worker
takes leave of the sink when it has nothing left to report. A thread that has been started takes its
steps at any time.

* `Overseer` — how far the main thread has come;
* `Happening` — what the sink and the slots went through;
* `Daemon`, `Daemon.start` — the three threads, and how they begin;
* `Daemon.oversee`, `Daemon.work`, `Daemon.step`, `Daemon.run` — their steps, in any order;
* `Daemon.answer?` — what the program answers.
-/

/-- Where the main thread stands. It keeps what the producer has returned until it answers. -/
inductive Overseer where
  | opening
  | startingWorker
  | startingProducer
  | awaitingProducer
  | closing (result : Except CaptureError Summary)
  | awaitingWorker (result : Except CaptureError Summary)
  | ended (result : Except CaptureError Summary)

namespace Overseer

/-- The sink has been told the name of the interface. -/
def hasOpened : Overseer → Bool
  | opening => false
  | _ => true

/-- There is a worker. -/
def hasWorker : Overseer → Bool
  | opening | startingWorker => false
  | _ => true

/-- There is a producer. -/
def hasProducer : Overseer → Bool
  | opening | startingWorker | startingProducer => false
  | _ => true

/-- The main thread has closed the slots. -/
def hasClosed : Overseer → Bool
  | awaitingWorker _ | ended _ => true
  | _ => false

/-- What the producer has returned, as soon as the main thread knows. -/
def result? : Overseer → Option (Except CaptureError Summary)
  | closing result | awaitingWorker result | ended result => some result
  | _ => none

end Overseer

/-- What happened to the sink or the slots. -/
inductive Happening where
  /-- The sink was told the name of the interface. -/
  | opened
  /-- A step of the producer or the worker, or the close. -/
  | act (a : Act)
  /-- The sink was told that nothing follows. -/
  | stopped
  deriving DecidableEq

/-- A main thread, and the two threads that it starts. -/
structure Daemon (σ τ : Type) where
  overseer : Overseer := .opening
  tandem : Tandem σ τ
  /-- What the sink left when it was told that nothing follows. -/
  farewell : Option (τ × Log) := none
  /-- What happened so far, in order. -/
  history : List Happening := []
  /-- What the main thread said. -/
  log : Log := []

namespace Daemon

/-- Whose turn it is. -/
inductive Turn where
  | oversee
  | produce
  | work
  deriving DecidableEq

variable {σ τ : Type} (source : Source σ) (signals : Signals) (policy : VlanPolicy) (sink : Sink τ)

/-- Nothing was done yet. -/
def start (state : σ) (ring : Ring) (kept : τ) : Daemon σ τ :=
  { tandem := .start source state ring kept }

/-- The slots, the producer or the worker move on. What they did anew is added to the history. -/
def moveOn (d : Daemon σ τ) (tandem : Tandem σ τ) : Daemon σ τ :=
  { d with
    tandem
    history := d.history ++
      (tandem.handover.acts.drop d.tandem.handover.acts.length).map .act }

/-- The sink is told the name of the interface. -/
def openSink (d : Daemon σ τ) : Daemon σ τ :=
  let (state, log) := sink.start source.name d.tandem.handover.worker.state
  let handover := d.tandem.handover
  { d with
    overseer := .startingWorker
    tandem := { d.tandem with
      handover := { handover with worker := { handover.worker with state } } }
    history := d.history ++ [.opened]
    log := d.log ++ log }

/-- What the main thread says at its end. -/
def closingLog (d : Daemon σ τ) : Except CaptureError Summary → Log
  | .ok summary =>
    stoppedLog summary d.tandem.handover.ring.stats d.tandem.handover.worker.handled
  | .error _ => []

/-- The next step of the main thread. There is none while it waits. -/
def oversee (d : Daemon σ τ) : Daemon σ τ :=
  match d.overseer with
  | .opening => d.openSink source sink
  | .startingWorker => { d with overseer := .startingProducer }
  | .startingProducer => { d with overseer := .awaitingProducer }
  | .awaitingProducer =>
    match d.tandem.producer.stage with
    | .returned result => { d with overseer := .closing result }
    | .asking | .storing _ _ => d
  | .closing result =>
    { d.moveOn { d.tandem with handover := d.tandem.handover.step sink .close } with
      overseer := .awaitingWorker result }
  | .awaitingWorker result =>
    if d.farewell.isSome then
      { d with overseer := .ended result, log := d.log ++ d.closingLog result }
    else d
  | .ended _ => d

/-- The next step of the worker. When it is done with the slots it takes leave of the sink. -/
def work (d : Daemon σ τ) : Daemon σ τ :=
  match d.tandem.handover.worker.stage, d.farewell with
  | .finished, none =>
    { d with
      farewell := some (sink.stop d.tandem.handover.worker.state)
      history := d.history ++ [.stopped] }
  | _, _ => d.moveOn (d.tandem.step source signals policy sink .work)

/-- One step. A thread that has not been started yet takes none. -/
def step (d : Daemon σ τ) : Turn → Daemon σ τ
  | .oversee => d.oversee source sink
  | .produce =>
    if d.overseer.hasProducer then d.moveOn (d.tandem.step source signals policy sink .produce)
    else d
  | .work => if d.overseer.hasWorker then d.work source signals policy sink else d

/-- Steps in a given order. -/
def run (d : Daemon σ τ) (turns : List Turn) : Daemon σ τ :=
  turns.foldl (step source signals policy sink) d

/-- What the program answers, once the main thread has ended. -/
def answer? (d : Daemon σ τ) : Option (Except Failure Unit) :=
  match d.overseer with
  | .ended (.ok _) => some (.ok ())
  | .ended (.error e) => some (.error { message := "Capture failed", causes := e.account })
  | _ => none

end Daemon

end LanWatch
