import LanWatch.Capture.Loop

namespace LanWatch

/-!
# The capture loop

The loop looks at the running flag, asks the source and deals with the answer, again and again until
the flag is clear or the answer is final. Nothing bounds the number of rounds: a source may have
nothing to hand out for ever. A run is therefore followed round by round.

* `Source` — anything that can be asked for frames;
* `Source.after`, `Source.answer`, `Source.deliveries` — a source that is asked again and again;
* `Signals` — what the loop sees beside the source: the running flag and the clock;
* `Source.Halts` — the loop goes no further than a request;
* `CaptureLoop`, `CaptureLoop.round`, `CaptureLoop.run` — the loop, a round of it, and its rounds.
-/

/-! ### Sources -/

/-- Anything that can be asked for frames: its name, and what it answers in which state. -/
structure Source (σ : Type) where
  name : String
  read : σ → Answer × σ

/-- A replay as a source. What is left of it is its state. -/
def Replay.source (r : Replay) : Source Replay :=
  { name := r.name, read := Replay.read }

/-- What the loop sees beside the source. -/
structure Signals where
  /-- The running flag is set when the loop looks at it before request `k`. -/
  running : Nat → Bool
  /-- Statistics are due once the answer to request `k` has been dealt with. -/
  statsDue : Nat → Bool := fun _ => false

namespace Source

variable {σ : Type} (source : Source σ) (state : σ) (signals : Signals)

/-- The state after `n` requests. -/
def after : Nat → σ
  | 0 => state
  | n + 1 => (source.read (after n)).2

/-- The answer to request `k`; the first request is request 0. -/
def answer (k : Nat) : Answer :=
  (source.read (source.after state k)).1

/-- What the loop gets from its first `n` requests. -/
def deliveries (n : Nat) : List Delivery :=
  (List.range n).map fun k =>
    { answer := source.answer state k, statsDue := signals.statsDue k }

/-- The loop goes no further than request `k`: the flag is clear before it, or its answer is
    final. -/
def Halts (k : Nat) : Prop :=
  signals.running k = false ∨ (source.answer state k).isFinal = true

/-- The error that ends a loop that goes no further than request `k`. A clear flag and a source that
    is closed are no errors. -/
def failure? (k : Nat) : Option CaptureError :=
  if signals.running k then (source.answer state k).error? else none

instance (k : Nat) : Decidable (source.Halts state signals k) :=
  inferInstanceAs (Decidable (_ ∨ _))

end Source

/-- How many requests a loop makes that goes no further than request `k`. That request is one of
    them unless the flag is clear before it. -/
def Signals.reads (signals : Signals) (k : Nat) : Nat :=
  if signals.running k then k + 1 else k

/-! ### The loop -/

/-- The loop between two rounds. -/
structure CaptureLoop (σ : Type) where
  progress : Progress
  /-- The state of the source. -/
  state : σ
  /-- How many requests have been made. -/
  reads : Nat

/-- What a loop leaves that is over. -/
structure CaptureLoop.End (σ : Type) where
  capture : Capture
  state : σ
  reads : Nat

namespace CaptureLoop

variable {σ : Type} (source : Source σ) (signals : Signals) (policy : VlanPolicy)

/-- The loop before its first round. -/
def start (state : σ) (ring : Ring) : CaptureLoop σ :=
  { progress := .start source.name ring, state, reads := 0 }

/-- One round: a look at the flag, a request, and what its answer brings. -/
def round (l : CaptureLoop σ) : Round (CaptureLoop σ) (End σ) :=
  if signals.running l.reads then
    let (answer, state) := source.read l.state
    match l.progress.deal source.name policy { answer, statsDue := signals.statsDue l.reads } with
    | .goesOn progress => .goesOn { progress, state, reads := l.reads + 1 }
    | .over capture => .over { capture, state, reads := l.reads + 1 }
  else .over { capture := l.progress.finish source.name, state := l.state, reads := l.reads }

/-- What the loop leaves if it is over within `rounds` rounds. -/
def run : Nat → CaptureLoop σ → Option (End σ)
  | 0, _ => none
  | rounds + 1, l =>
    match l.round source signals policy with
    | .goesOn next => run rounds next
    | .over ended => some ended

end CaptureLoop

end LanWatch
