import LanWatch.Proofs.Capture.Keeping
import LanWatch.Proofs.Capture.Running
import LanWatch.Proofs.Handover.Balance
import LanWatch.Proofs.Report.Draining

namespace LanWatch

/-!
# What comes of a whole session

A replay is captured until it is closed, then the slots are closed, and then they are drained. What
the sink is given can be told from the frames alone: it is the list of distinct sightings in the
frames that the filter accepts, or the first of them if there are more than the slots hold.

* `Replay.observed` — the sightings in the frames that the filter accepts;
* `Replay.run_to_close` — what the capture leaves;
* `Replay.reports_distinct` — what the session comes to.
-/

namespace Replay

open Sighting

variable (r : Replay) (policy : VlanPolicy)

/-- The sightings in the frames that the filter accepts, in order. -/
def observed : List Sighting :=
  sightingsOf policy (r.frames.filter fun f => r.filter.accepts f.data)

/-- A replay is asked once for each of its frames and once more. It stores what was observed. -/
theorem run_to_close (statsDue : Nat → Bool) (ring : Ring) :
    ∃ ended summary,
      CaptureLoop.run r.source { running := fun _ => true, statsDue } policy (r.frames.length + 1)
        (.start r.source r ring) = some ended ∧
      ended.capture.result = .ok summary ∧
      ended.capture.ring = (ring.pushAll (r.observed policy)).1 ∧
      summary.sightings = (r.observed policy).length ∧
      summary.duplicates = (ring.pushAll (r.observed policy)).2.count .duplicate ∧
      summary.dropped = (ring.pushAll (r.observed policy)).2.count .dropped ∧
      summary.evicted = (ring.pushAll (r.observed policy)).2.count .evicted := by
  -- No read but the one behind the last frame is final, and the flag is never cleared.
  have hfirst : ∀ j < r.frames.length,
      ¬ r.source.Halts r { running := fun _ => true, statsDue } j := by
    rintro j hj (hclear | hfinal)
    · cases hclear
    · have hlength := (r.isFinal_answer_source j).1 hfinal
      omega
  have hhalts : r.source.Halts r { running := fun _ => true, statsDue } r.frames.length :=
    .inr ((r.isFinal_answer_source _).2 (Nat.le_refl _))
  obtain ⟨hring, hresult⟩ := CaptureLoop.ended_accounts policy ring hfirst hhalts
  rw [r.framesOf_deliveries, take_reads (.inr rfl), List.take_length] at hring hresult
  rw [r.failure?_source] at hresult
  exact ⟨_, _, CaptureLoop.run_reached_of_halts policy ring hfirst hhalts (Nat.zero_le _) (by omega),
    hresult, hring, rfl, rfl, rfl, rfl⟩

/-- The sink is given what was kept, and every other sighting is accounted for. -/
theorem drain_kept {capacity : Nat} {overflow : Overflow} {ss : List Sighting}
    (hkept : Ring.Kept (capacity - 1) overflow ss ((Ring.empty capacity overflow).pushAll ss).1
      ((Ring.empty capacity overflow).pushAll ss).2) {σ : Type} (sink : Sink σ) (state : σ) :
    let drained := drain sink ((Ring.empty capacity overflow).pushAll ss).1.close state
    let outcomes := ((Ring.empty capacity overflow).pushAll ss).2
    drained.state = (sink.reportAll state ((distinct ss).take (capacity - 1))).1 ∧
      drained.handled = ((distinct ss).take (capacity - 1)).length ∧
      ss.length = drained.handled + outcomes.count .dropped + outcomes.count .duplicate := by
  obtain ⟨hhandled, hstate, -⟩ := drain_spec sink (Ring.valid_close hkept.valid) state
  have hlist : ((Ring.empty capacity overflow).pushAll ss).1.close.toList =
      (distinct ss).take (capacity - 1) := hkept.toList_eq
  rw [hlist] at hhandled hstate
  refine ⟨hstate, hhandled, ?_⟩
  -- Every sighting has one of the four outcomes, and none was evicted.
  have hlength := length_eq_counts ((Ring.empty capacity overflow).pushAll ss).2
  rw [Ring.length_pushAll, hkept.stored_eq, hkept.evicted_eq] at hlength
  rw [hhandled]
  omega

/-- A replay is captured to its close into slots that were just set up, the slots are closed, and then
    drained into any sink. If sightings that find no room are dropped, the sink is given the first
    distinct ones, as many as the slots hold; what says the same as none of them was dropped, and all
    else suppressed. If they evict others, and there is room for all distinct ones, the sink is given
    all of these; nothing was dropped or evicted, and all else was suppressed. -/
theorem reports_distinct (statsDue : Nat → Bool) {capacity : Nat} (hcap : 2 ≤ capacity)
    (overflow : Overflow) :
    (∀ memory, Ring.Fits capacity memory →
      Ring.create capacity overflow memory = .ok (.empty capacity overflow)) ∧
      ∃ ended summary,
        CaptureLoop.run r.source { running := fun _ => true, statsDue } policy (r.frames.length + 1)
          (.start r.source r (.empty capacity overflow)) = some ended ∧
        ended.capture.result = .ok summary ∧
        summary.sightings = (r.observed policy).length ∧
        ∀ {σ : Type} (sink : Sink σ) (state : σ),
          let drained := drain sink ended.capture.ring.close state
          let kept := (distinct (r.observed policy)).take (capacity - 1)
          (overflow = .dropNew →
            drained.state = (sink.reportAll state kept).1 ∧ drained.handled = kept.length ∧
            summary.evicted = 0 ∧
            summary.dropped = (r.observed policy).countP (fun s => !kept.any (·.same s)) ∧
            summary.sightings = drained.handled + summary.dropped + summary.duplicates) ∧
          (overflow = .evictOldest → (distinct (r.observed policy)).length ≤ capacity - 1 →
            drained.state = (sink.reportAll state (distinct (r.observed policy))).1 ∧
            drained.handled = (distinct (r.observed policy)).length ∧
            summary.dropped = 0 ∧ summary.evicted = 0 ∧
            summary.sightings = drained.handled + summary.duplicates) := by
  refine ⟨fun _ => Ring.create_eq_empty hcap overflow, ?_⟩
  obtain ⟨ended, summary, hrun, hresult, hring, hsightings, hduplicates, hdropped, hevicted⟩ :=
    r.run_to_close policy statsDue (.empty capacity overflow)
  refine ⟨ended, summary, hrun, hresult, hsightings, fun sink state => ⟨fun hmode => ?_,
    fun hmode hfits => ?_⟩⟩
  · have hkept := Ring.kept_pushAll hcap overflow (r.observed policy) (.inl hmode)
    obtain ⟨hstate, hhandled, hlength⟩ := drain_kept hkept sink state
    rw [← hring] at hstate hhandled hlength
    rw [hsightings, hdropped, hduplicates, hevicted]
    exact ⟨hstate, hhandled, hkept.evicted_eq, hkept.dropped_eq, hlength⟩
  · -- All distinct sightings fit, so none is dropped or evicted.
    have hkept := Ring.kept_pushAll hcap overflow (r.observed policy) (.inr hfits)
    obtain ⟨hstate, hhandled, hlength⟩ := drain_kept hkept sink state
    have hnone := hkept.dropped_eq
    have hall : (distinct (r.observed policy)).take (capacity - 1) = distinct (r.observed policy) :=
      List.take_of_length_le hfits
    rw [← hring, hall] at hstate hhandled
    rw [hall, countP_not_anySame_distinct] at hnone
    rw [← hring, hnone] at hlength
    rw [hsightings, hdropped, hduplicates, hevicted]
    exact ⟨hstate, hhandled, hnone, hkept.evicted_eq, hlength⟩

/-- Four frames, the first two of them from one sender. With three slots the third sender finds no
    room, and is dropped. With four slots there is room for all of them. -/
theorem reports_distinct_of_arp_requests :
    let request (n : UInt8) : Frame := ⟨⟨1, 0⟩, List.replicate 6 0xff ++ [2, 0, 0, 0, 0, n, 8, 6] ++
      [0, 1, 8, 0, 6, 4, 0, 1, 2, 0, 0, 0, 0, n, 10, 0, 0, n, 0, 0, 0, 0, 0, 0, 10, 0, 0, 9]⟩
    let replay : Replay :=
      { name := "replay0", frames := [request 1, request 1, request 2, request 3] }
    let signals : Signals := { running := fun _ => true, statsDue := fun _ => false }
    (∃ ring, Ring.create 3 .dropNew = .ok ring ∧
      ∃ ended summary,
        CaptureLoop.run replay.source signals {} 5 (.start replay.source replay ring) = some ended ∧
        ended.capture.result = .ok summary ∧
        let drained := drain (Sink.collect none) ended.capture.ring.close []
        drained.state.map Sighting.ip = [⟨10, 0, 0, 1⟩, ⟨10, 0, 0, 2⟩] ∧ drained.handled = 2 ∧
          summary.evicted = 0 ∧ summary.dropped = 1 ∧
          summary.sightings = drained.handled + summary.dropped + summary.duplicates) ∧
    ∃ ring, Ring.create 4 .evictOldest = .ok ring ∧
      ∃ ended summary,
        CaptureLoop.run replay.source signals {} 5 (.start replay.source replay ring) = some ended ∧
        ended.capture.result = .ok summary ∧
        let drained := drain (Sink.collect none) ended.capture.ring.close []
        drained.state.map Sighting.ip = [⟨10, 0, 0, 1⟩, ⟨10, 0, 0, 2⟩, ⟨10, 0, 0, 3⟩] ∧
          drained.handled = 3 ∧ summary.dropped = 0 ∧ summary.evicted = 0 ∧
          summary.sightings = drained.handled + summary.duplicates := by
  intro request replay signals
  constructor
  · obtain ⟨hcreate, ended, summary, hrun, hresult, -, hall⟩ :=
      reports_distinct replay {} (fun _ => false) (show 2 ≤ 3 by decide) .dropNew
    refine ⟨_, hcreate _ (by decide), ended, summary, hrun, hresult, ?_⟩
    obtain ⟨hstate, hhandled, hevicted, hdropped, hlength⟩ := (hall (Sink.collect none) []).1 rfl
    refine ⟨?_, hhandled.trans (by decide +kernel), hevicted, hdropped.trans (by decide +kernel),
      hlength⟩
    rw [hstate]
    decide +kernel
  · obtain ⟨hcreate, ended, summary, hrun, hresult, -, hall⟩ :=
      reports_distinct replay {} (fun _ => false) (show 2 ≤ 4 by decide) .evictOldest
    refine ⟨_, hcreate _ (by decide), ended, summary, hrun, hresult, ?_⟩
    obtain ⟨hstate, hhandled, hnone⟩ :=
      (hall (Sink.collect none) []).2 rfl (by decide +kernel)
    refine ⟨?_, hhandled.trans (by decide +kernel), hnone⟩
    rw [hstate]
    decide +kernel

end Replay

end LanWatch
