import LanWatch.Capture.Loop
import LanWatch.Report.Drain
import LanWatch.Settings.Setting

namespace LanWatch

/-!
# Sessions

A session captures frames and reports the sightings in them. The capture and the sink share nothing
but the pending slots, so what is reported does not depend on how the two take turns as long as no
slot overruns; here the sink starts first and reports once the capture is over.

* `Session`, `runSession` — a session with a given sink;
* `Settings.createRing`, `Settings.site`, `Settings.replay` — what settings ask for;
* `Replayed`, `Settings.replaySession` — a session over prepared frames, as settings ask for it.
-/

/-- What a session leaves. -/
structure Session (σ : Type) where
  capture : Capture
  /-- How full the slots were once the capture was over. -/
  stats : Ring.Stats
  /-- How many sightings went to the sink. -/
  handled : Nat
  /-- What the sink keeps. -/
  state : σ
  /-- What was said before the capture. -/
  opening : Log
  /-- What was said after the capture. -/
  closing : Log

/-- Captures from the source called `name` and reports what is pending afterwards. -/
def runSession {σ : Type} (sink : Sink σ) (state : σ) (name : String) (policy : VlanPolicy)
    (ring : Ring) (deliveries : List Delivery) : Session σ :=
  let (state, opening) := sink.start name state
  let captured := capture name policy ring deliveries
  let ring := captured.ring.close
  let drained := drain sink ring state
  let (state, stopped) := sink.stop drained.state
  ⟨captured, ring.stats, drained.handled, state, opening, drained.log ++ stopped⟩

/-- Everything that was said in a session. -/
def Session.fullLog {σ : Type} (s : Session σ) : Log :=
  s.opening ++ s.capture.fullLog ++ s.closing

namespace Settings

/-- The slots that settings ask for, where a piece of memory has up to `memory` bytes. -/
def createRing (s : Settings) (memory : Nat := Ring.mostBytes) : Except RingError Ring :=
  Ring.create s.bufferSize s.overflow memory

/-- Where the sightings come from. -/
def site (s : Settings) : Site :=
  { location := s.location, label := s.label }

/-- Prepared frames as a source, which has the name of the interface to watch. -/
def replay (s : Settings) (frames : List Frame) : Replay :=
  { name := s.interface.getD "replay0", frames, filter := s.filter }

end Settings

/-- What a session over prepared frames leaves. -/
structure Replayed where
  /-- The counts of the capture. -/
  summary : Except CaptureError Summary
  stats : Ring.Stats
  handled : Nat
  output : String
  log : Log

/-- The session, with its output taken out of what the sink keeps. -/
def Session.replayed {σ : Type} (s : Session σ) (output : σ → String) : Replayed :=
  ⟨s.capture.result, s.stats, s.handled, output s.state, s.fullLog⟩

/-- Captures prepared frames and reports them in the style of the settings. -/
def Settings.replaySession (s : Settings) (frames : List Frame) (verbose : Bool)
    (resolver : Option Resolver) : Except RingError Replayed := do
  let ring ← s.createRing
  let source := s.replay frames
  let deliveries := source.answers.map fun answer => { answer }
  match s.sink with
  | .console =>
    let session := runSession (.console verbose) "" source.name s.vlanPolicy ring deliveries
    pure (session.replayed id)
  | .sql =>
    let session := runSession (.sql s.site resolver) (.direct .unlimited) source.name s.vlanPolicy
      ring deliveries
    pure (session.replayed fun w => w.medium.contents)

end LanWatch
