import LanWatch.Proofs.Handover.Steps
import Mathlib.Data.List.Count

namespace LanWatch

/-!
# Stored and released in balance

A worker that was overtaken may release another slot than that of the sighting that it reported. But
it always releases one: an eviction takes the oldest sighting and puts a new one at the end, so what
a busy worker finds is never empty. The numbers therefore come out even, whatever the order of steps:
each sighting that was stored into a free slot is pending, or a slot was released for it.

* `outcomesIn` — what became of the sightings that the producer tried to store;
* `length_eq_counts` — every one of them was stored, dropped, suppressed, or made room for itself;
* `Ring.push_overruns` — which of them are overruns;
* `Handover.Balanced`, `Handover.balanced_step` — the balance, which no step breaks.
-/

/-! ### Outcomes -/

/-- What became of the sightings that the producer tried to store, in order. -/
def outcomesIn (acts : List Act) : List PushOutcome :=
  acts.filterMap fun
    | .pushed _ outcome => some outcome
    | _ => none

theorem outcomesIn_concat (acts : List Act) (a : Act) :
    outcomesIn (acts ++ [a]) = outcomesIn acts ++ outcomesIn [a] :=
  List.filterMap_append

/-- There are four ways that storing can go, by induction on the outcomes. -/
theorem length_eq_counts (outcomes : List PushOutcome) :
    outcomes.length = outcomes.count .stored + outcomes.count .duplicate +
      outcomes.count .dropped + outcomes.count .evicted := by
  induction outcomes with
  | nil => rfl
  | cons outcome outcomes ih =>
    rw [List.length_cons, ih]
    cases outcome <;> simp only [List.count_cons_self, List.count_cons_of_ne, ne_eq,
      reduceCtorEq, not_false_eq_true] <;> omega

/-- A sighting that finds no room is an overrun, whether it is dropped or evicts another one. -/
theorem Ring.push_overruns (r : Ring) (suppress : Bool) (s : Sighting) :
    (r.push suppress s).1.overruns =
      r.overruns + [(r.push suppress s).2].count .dropped +
        [(r.push suppress s).2].count .evicted := by
  unfold push
  split
  · rfl
  · split
    · cases r.overflow <;> rfl
    · rfl

namespace Handover

variable {σ : Type} {h : Handover σ}

/-! ### The balance -/

/-- What was stored into free slots is pending or was released, overruns are counted as such, and a
    worker that is busy has a slot to release. -/
structure Balanced (h : Handover σ) : Prop where
  overruns_eq : h.ring.overruns =
    (outcomesIn h.acts).count .dropped + (outcomesIn h.acts).count .evicted
  stored_eq : (outcomesIn h.acts).count .stored = h.ring.toList.length + h.worker.handled
  busy : h.worker.stage.busy = true → h.ring.toList ≠ []

theorem balanced_start {r : Ring} (hoverruns : r.overruns = 0) (hlist : r.toList = []) (state : σ) :
    (start r state).Balanced where
  overruns_eq := hoverruns
  stored_eq := by
    show 0 = r.toList.length + 0
    rw [hlist]
    rfl
  busy hbusy := by cases hbusy

/-- A store keeps the balance if it adds to the pending sightings exactly if it found a free slot. -/
theorem Balanced.push (hi : h.Balanced) {suppress : Bool} {s : Sighting} {outcome : PushOutcome}
    (hout : (h.ring.push suppress s).2 = outcome)
    (hlength : (h.ring.push suppress s).1.toList.length =
      h.ring.toList.length + [outcome].count .stored) :
    ({ h with ring := (h.ring.push suppress s).1,
              acts := h.acts ++ [.pushed s outcome] } : Handover σ).Balanced where
  overruns_eq := by
    have hoverruns := Ring.push_overruns h.ring suppress s
    rw [hout, hi.overruns_eq] at hoverruns
    show (h.ring.push suppress s).1.overruns = _
    rw [outcomesIn_concat, List.count_append, List.count_append, hoverruns]
    show _ = _ + [outcome].count .dropped + (_ + [outcome].count .evicted)
    omega
  stored_eq := by
    show (outcomesIn (h.acts ++ [.pushed s outcome])).count .stored =
      (h.ring.push suppress s).1.toList.length + h.worker.handled
    rw [outcomesIn_concat, List.count_append, hi.stored_eq, hlength]
    show _ + [outcome].count .stored = _
    omega
  busy hbusy hnil := by
    have hnil : (h.ring.push suppress s).1.toList = [] := hnil
    have hpos := List.length_pos_iff.2 (hi.busy hbusy)
    rw [hnil, List.length_nil] at hlength
    omega

/-- A step that stores nothing and releases nothing. -/
theorem Balanced.of_unseen (hi : h.Balanced) {h' : Handover σ} {a : Act}
    (hacts : h'.acts = h.acts ++ [a]) (houtcomes : outcomesIn [a] = [])
    (hoverruns : h'.ring.overruns = h.ring.overruns) (hlist : h'.ring.toList = h.ring.toList)
    (hhandled : h'.worker.handled = h.worker.handled)
    (hbusy : h'.worker.stage.busy = true → h.ring.toList ≠ []) : h'.Balanced := by
  have hsame : outcomesIn h'.acts = outcomesIn h.acts := by
    rw [hacts, outcomesIn_concat, houtcomes, List.append_nil]
  constructor
  · rw [hsame, hoverruns]
    exact hi.overruns_eq
  · rw [hsame, hlist, hhandled]
    exact hi.stored_eq
  · rw [hlist]
    exact hbusy

/-- A release takes one of the pending sightings, since there is one. -/
theorem Balanced.release (hi : h.Balanced) (hstage : h.worker.stage = .releasing)
    (hlist : h.ring.release.toList = h.ring.toList.tail) :
    ({ ring := h.ring.release
       worker := { h.worker with stage := .looking, handled := h.worker.handled + 1 }
       acts := h.acts ++ [.released] } : Handover σ).Balanced := by
  have hsame : outcomesIn (h.acts ++ [.released]) = outcomesIn h.acts := by
    rw [outcomesIn_concat]
    exact List.append_nil _
  have hpos := List.length_pos_iff.2 (hi.busy (by rw [hstage]; rfl))
  constructor
  · rw [hsame, ← hi.overruns_eq]
    exact Ring.release_overruns h.ring
  · rw [hsame, hi.stored_eq, hlist, List.length_tail]
    show _ = h.ring.toList.length - 1 + (h.worker.handled + 1)
    omega
  · intro hbusy
    cases hbusy

theorem balanced_step (sink : Sink σ) (h : Handover σ) (t : Turn) (hv : h.ring.Valid)
    (hi : h.Balanced) : (h.step sink t).Balanced := by
  -- One case for each way that a step can go.
  have heffect := step_effect sink hv t
  generalize h.step sink t = h' at heffect
  cases heffect with
  | rests => exact hi
  | passes suppress s outcome hout ho hlist =>
    refine hi.push hout ?_
    rw [hlist]
    rcases ho with rfl | rfl <;> rfl
  | stores suppress s hout hlist =>
    refine hi.push hout ?_
    rw [hlist, List.length_append]
    rfl
  | evicts suppress s hout hmode hne hlist =>
    -- One sighting leaves and one comes.
    have hpos := List.length_pos_iff.2 hne
    refine hi.push hout ?_
    rw [hlist, List.length_append, List.length_tail]
    show h.ring.toList.length - 1 + 1 = h.ring.toList.length + 0
    omega
  | closes => exact hi.of_unseen rfl rfl rfl rfl rfl hi.busy
  | looks s hstage hhead =>
    refine hi.of_unseen rfl rfl rfl rfl rfl fun _ hnil => ?_
    rw [hnil] at hhead
    cases hhead
  | reports s hstage =>
    exact hi.of_unseen rfl rfl rfl rfl rfl fun _ => hi.busy (by rw [hstage]; rfl)
  | releases hstage hlist => exact hi.release hstage hlist
  | returns hstage hlist hclosed =>
    exact hi.of_unseen rfl rfl rfl rfl rfl fun hbusy => by cases hbusy

end Handover

end LanWatch
