import LanWatch.Pending.Queue

namespace LanWatch

/-!
# Threads at the pending sightings

Any number of threads make requests of the same slots. A lock lets one of them at the slots at a
time, and a signal wakes the consumers that wait for a sighting. A thread gives the signal only after
it has given the lock back, so that others may take their steps in between.

* `Keeper.Request.signals` — the requests that waiting consumers have to be told of;
* `Monitor.Stage` — where a thread stands in its request;
* `Monitor` — the slots, their lock, and where every thread stands;
* `Monitor.Turn`, `Monitor.step`, `Monitor.run` — the steps of threads, in any order;
* `Monitor.signalsSince` — how often a thread gave the signal in its last request.
-/

/-- Waiting consumers have to be told of a request: a sighting was stored, or the slots were
    closed. -/
def Keeper.Request.signals : Keeper.Request → Keeper.Reply → Bool
  | .push _ _, .pushed .stored | .push _ _, .pushed .evicted => true
  | .close, _ => true
  | _, _ => false

namespace Monitor

/-- Where a thread stands. -/
inductive Stage where
  /-- It makes no request. -/
  | idle
  /-- It is about to take the lock: for the first time, or because it woke. -/
  | entering (q : Keeper.Request)
  /-- It holds the lock and is about to be served. -/
  | inside (q : Keeper.Request)
  /-- It has given the lock back and sleeps until it is woken. -/
  | asleep (q : Keeper.Request)
  /-- It has been served and still holds the lock. -/
  | leaving (q : Keeper.Request) (reply : Keeper.Reply)
  /-- It has given the lock back and is about to give the signal. -/
  | signalling (q : Keeper.Request) (reply : Keeper.Reply)
  deriving DecidableEq

/-- A thread that sleeps is about to take the lock again once it wakes. -/
def Stage.woken : Stage → Stage
  | asleep q => entering q
  | stage => stage

/-- What can be seen of the threads from outside. -/
inductive Act (ι : Type) where
  | called (t : ι) (q : Keeper.Request)
  | signalled (t : ι)
  | returned (t : ι) (q : Keeper.Request) (reply : Keeper.Reply)
  deriving DecidableEq

/-- Whose turn it is. -/
inductive Turn (ι : Type) where
  /-- A thread makes a request, unless it is busy with one. -/
  | call (t : ι) (q : Keeper.Request)
  /-- A thread takes its next step, if it has one. -/
  | proceed (t : ι)
  /-- A thread that sleeps wakes without a signal. -/
  | wake (t : ι)
  deriving DecidableEq

end Monitor

/-- The slots, their lock, and threads with names of type `ι`. -/
structure Monitor (ι : Type) where
  ring : Ring
  /-- The thread that holds the lock. -/
  owner : Option ι := none
  stage : ι → Monitor.Stage := fun _ => .idle
  /-- What was seen so far, in order. -/
  acts : List (Monitor.Act ι) := []

namespace Monitor

variable {ι : Type} [DecidableEq ι]

/-- No thread has made a request yet. -/
def start (ι : Type) (ring : Ring) : Monitor ι :=
  { ring }

/-! ### Steps -/

/-- One thread moves on. -/
def move (m : Monitor ι) (t : ι) (stage : Stage) : Monitor ι :=
  { m with stage := fun u => if u = t then stage else m.stage u }

/-- Something is seen. -/
def note (m : Monitor ι) (a : Act ι) : Monitor ι :=
  { m with acts := m.acts ++ [a] }

/-- The lock is taken, or given back. -/
def pass (m : Monitor ι) (owner : Option ι) : Monitor ι :=
  { m with owner }

/-- A thread takes the lock as soon as it is free. -/
def enter (m : Monitor ι) (t : ι) (q : Keeper.Request) : Monitor ι :=
  if m.owner = none then (m.pass (some t)).move t (.inside q) else m

/-- A thread is served under the lock. If it has to wait, it gives the lock back and goes to sleep in
    the same step. -/
def serve (m : Monitor ι) (t : ι) (q : Keeper.Request) : Monitor ι :=
  match Keeper.ring.serve m.ring q with
  | (_, .waiting) => (m.pass none).move t (.asleep q)
  | (ring, reply) => { m with ring }.move t (.leaving q reply)

/-- A thread that was served gives the lock back, and returns if there is nothing to tell. -/
def leave (m : Monitor ι) (t : ι) (q : Keeper.Request) (reply : Keeper.Reply) : Monitor ι :=
  if q.signals reply then (m.pass none).move t (.signalling q reply)
  else ((m.pass none).move t .idle).note (.returned t q reply)

/-- A thread wakes all that sleep, and returns. -/
def signal (m : Monitor ι) (t : ι) (q : Keeper.Request) (reply : Keeper.Reply) : Monitor ι :=
  ((({ m with stage := fun u => (m.stage u).woken }.move t .idle).note (.signalled t)).note
    (.returned t q reply))

/-- One step. -/
def step (m : Monitor ι) : Turn ι → Monitor ι
  | .call t q =>
    match m.stage t with
    | .idle => (m.move t (.entering q)).note (.called t q)
    | _ => m
  | .proceed t =>
    match m.stage t with
    | .entering q => m.enter t q
    | .inside q => m.serve t q
    | .leaving q reply => m.leave t q reply
    | .signalling q reply => m.signal t q reply
    | .idle | .asleep _ => m
  | .wake t =>
    match m.stage t with
    | .asleep q => m.move t (.entering q)
    | _ => m

/-- Steps in a given order. -/
def run (m : Monitor ι) (turns : List (Turn ι)) : Monitor ι :=
  turns.foldl step m

/-! ### What was seen -/

/-- How often a thread gave the signal since it made its last request. -/
def signalsSince (t : ι) (acts : List (Act ι)) : Nat :=
  acts.foldl (fun n a => match a with
    | .called u _ => if u = t then 0 else n
    | .signalled u => if u = t then n + 1 else n
    | .returned .. => n) 0

end Monitor

end LanWatch
