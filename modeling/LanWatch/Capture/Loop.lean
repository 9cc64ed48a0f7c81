import LanWatch.Capture.Source
import LanWatch.Frame.Ethernet
import LanWatch.Pending.Ring

namespace LanWatch

/-!
# Capturing

Frames go from the source through the decoder into the pending slots. Storing never waits, so a
slow consumer cannot stall the capture.

The capture looks at its running flag before each request. It is therefore determined by the
deliveries that come before the flag is seen clear: a list that ends without a final answer is a
capture that was stopped.

Counts have no bound, and no time passes here: a delivery comes with whether statistics are due.

* `Summary` — the counts of one capture;
* `store` — a frame's records go into the pending slots;
* `Capture` — the result of a capture: the counts or an error, the slots, and what was said;
* `Progress`, `Progress.deal` — how far a capture has come, and what a delivery makes of that;
* `capture` — the whole run.
-/

/-- The counts of one capture. -/
structure Summary where
  frames : Nat := 0
  sightings : Nat := 0
  /-- Frames whose decoding ran past the captured bytes. -/
  truncated : Nat := 0
  /-- Frames with a field too long for a record. -/
  malformed : Nat := 0
  duplicates : Nat := 0
  dropped : Nat := 0
  evicted : Nat := 0
  deriving DecidableEq

namespace Summary

/-- Counts what became of a sighting. -/
def countPush (s : Summary) (outcome : PushOutcome) : Summary :=
  let s := { s with sightings := s.sightings + 1 }
  match outcome with
  | .stored => s
  | .evicted => { s with evicted := s.evicted + 1 }
  | .dropped => { s with dropped := s.dropped + 1 }
  | .duplicate => { s with duplicates := s.duplicates + 1 }

/-- Counts a frame. -/
def countFrame (s : Summary) (error : Option DecodeError) : Summary :=
  let s := { s with frames := s.frames + 1 }
  match error with
  | some (.truncated ..) => { s with truncated := s.truncated + 1 }
  | some (.fieldTooLong ..) => { s with malformed := s.malformed + 1 }
  | none => s

end Summary

/-- Stores sightings in order, suppressing duplicates, and counts what became of them. -/
def store (summary : Summary) (ring : Ring) : List Sighting → Summary × Ring
  | [] => (summary, ring)
  | s :: ss =>
    let (ring, outcome) := ring.push true s
    store (summary.countPush outcome) ring ss

/-! ### What is said -/

/-- What is said about a frame whose decoding stopped. A field that is too long is worth a warning;
    a frame cut short is not. -/
def stoppedEvent : DecodeError → Event
  | e@(.truncated ..) => ⟨.debug, .captureLoop, stoppedText e⟩
  | e@(.fieldTooLong ..) => ⟨.warn, .captureLoop, stoppedText e⟩

/-- What is said about how full the slots are. -/
def statsLog (ring : Ring) : Log :=
  let stats := ring.stats
  let action := match ring.overflow with
    | .evictOldest => "evicting oldest"
    | .dropNew => "dropping new"
  [⟨.info, .captureLoop, "Buffer: " ++ Text.decimal stats.pending ++ "/" ++
    Text.decimal stats.capacity ++ " pending (" ++ Text.fixedPoint 1 stats.percentFull ++
    "% full)"⟩] ++
  (if stats.full then [⟨.warn, .captureLoop, "Buffer full, " ++ action ++ " sightings"⟩] else []) ++
  (if 0 < stats.overruns then
    [⟨.warn, .captureLoop, "Buffer overruns so far: " ++ Text.decimal stats.overruns⟩] else [])

/-- What is said at the start of a capture. -/
def startEvent (name : String) : Event :=
  ⟨.info, .captureLoop, "Capturing on " ++ name⟩

/-- What is said when a source is closed. -/
def closedEvent (name : String) : Event :=
  ⟨.info, .captureLoop, "Source " ++ name ++ " closed"⟩

/-- What is said at the end of a capture. -/
def finishedEvent (name : String) (summary : Summary) : Event :=
  ⟨.info, .captureLoop, "Capture on " ++ name ++ " finished: " ++ Text.decimal summary.frames ++
    " frames, " ++ Text.decimal summary.sightings ++ " observations"⟩

/-! ### The run -/

/-- The result of a capture. -/
structure Capture where
  /-- The counts, unless the source broke down. -/
  result : Except CaptureError Summary
  /-- The pending slots afterwards. -/
  ring : Ring
  /-- What was said while frames were requested. -/
  log : Log := []
  /-- What was said once no more were requested. -/
  closing : Log := []

/-- Everything that was said. -/
def Capture.fullLog (c : Capture) : Log :=
  c.log ++ c.closing

/-- What one round makes of a loop. -/
inductive Round (α β : Type) where
  | goesOn (next : α)
  | over (result : β)

/-- How far a capture has come. -/
structure Progress where
  summary : Summary := {}
  ring : Ring
  log : Log

namespace Progress

variable (name : String) (policy : VlanPolicy)

/-- A capture from the source called `name` that has not asked for anything yet. -/
def start (ring : Ring) : Progress :=
  { ring, log := [startEvent name] }

/-- A frame is counted and decoded, and its records go into the pending slots. -/
def takeFrame (p : Progress) (f : Frame) : Progress :=
  let dissection := dissect policy f.seen f.data
  let (summary, ring) := store (p.summary.countFrame dissection.error) p.ring dissection.sightings
  { summary, ring,
    log := p.log ++ (dissection.log ++ dissection.error.toList.map stoppedEvent) }

/-- Says how full the slots are if that is due. -/
def sayStats (due : Bool) (p : Progress) : Progress :=
  if due then { p with log := p.log ++ statsLog p.ring } else p

/-- Goes on after an answer that is not final. -/
def advance (p : Progress) (d : Delivery) : Progress :=
  match d.answer with
  | .frame f => (p.takeFrame policy f).sayStats d.statsDue
  | _ => p.sayStats d.statsDue

/-- The end of a capture that was stopped, or whose source is closed. -/
def finish (p : Progress) : Capture :=
  { result := .ok p.summary, ring := p.ring, log := p.log,
    closing := [finishedEvent name p.summary] }

/-- The end of a capture whose source broke down. -/
def fail (e : CaptureError) (p : Progress) : Capture :=
  { result := .error e, ring := p.ring, log := p.log }

/-- What a delivery makes of a capture. -/
def deal (p : Progress) (d : Delivery) : Round Progress Capture :=
  match d.answer with
  | .closed => .over (finish name { p with log := p.log ++ [closedEvent name] })
  | .failed e => .over (p.fail e)
  | .died => .over (p.fail .workerDied)
  | .frame _ => .goesOn (p.advance policy d)
  | .idle => .goesOn (p.advance policy d)

/-- Goes on with the deliveries that come before the running flag is seen clear. -/
def run (p : Progress) : List Delivery → Capture
  | [] => p.finish name
  | d :: ds =>
    match p.deal name policy d with
    | .goesOn next => run next ds
    | .over c => c

end Progress

/-- A capture from the source called `name`, given the deliveries that come before the running flag
    is seen clear. -/
def capture (name : String) (policy : VlanPolicy) (ring : Ring) (deliveries : List Delivery) :
    Capture :=
  (Progress.start name ring).run name policy deliveries

end LanWatch
