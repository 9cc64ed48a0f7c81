import LanWatch.Pending.Ring
import LanWatch.Report.Sink

namespace LanWatch

/-!
# Draining

The pending sightings go to a sink, oldest first, until none is left. The slot of a sighting is
released whether or not it could be reported, so that one bad write cannot block the slots.

* `Drained` — what draining leaves;
* `drain` — the pending sightings of slots that nothing will be stored into any more.
-/

/-- What draining leaves. -/
structure Drained (σ : Type) where
  /-- How many sightings were taken from the slots. -/
  handled : Nat
  ring : Ring
  state : σ
  log : Log

/-- What is said about a sighting that could not be reported. -/
def failedReportEvent (s : Sighting) (e : SinkError) : Event :=
  ⟨.error, .reports, "Failed to report " ++ s.kind.label ++ " " ++ s.mac.text ++ ": " ++ e.message⟩

/-- What is said when nothing is left. -/
def drainedEvent (handled : Nat) : Event :=
  ⟨.debug, .reports, "Drained " ++ Text.decimal handled ++ " observations"⟩

/-- Takes up to `n` sightings from the slots, with `handled` taken before. -/
def drainUpTo {σ : Type} (sink : Sink σ) (n handled : Nat) (ring : Ring) (state : σ) : Drained σ :=
  match n with
  | 0 => ⟨handled, ring, state, []⟩
  | n + 1 =>
    match ring.front? with
    | none => ⟨handled, ring, state, []⟩
    | some s =>
      let reported := sink.report s state
      let rest := drainUpTo sink n (handled + 1) ring.release reported.state
      { rest with
        log := reported.log ++ reported.error.toList.map (failedReportEvent s) ++ rest.log }

/-- Reports everything that is pending. -/
def drain {σ : Type} (sink : Sink σ) (ring : Ring) (state : σ) : Drained σ :=
  let drained := drainUpTo sink ring.size 0 ring state
  { drained with log := drained.log ++ [drainedEvent drained.handled] }

end LanWatch
