import LanWatch.Proofs.Handover.Delivery
import LanWatch.Proofs.Session.Accounting

namespace LanWatch

/-!
# Delivery without evictions

Slots that evict their oldest sighting when they are full do as slots that drop the new one as long
as none is evicted. So what is known of the order of delivery there holds here.

* `Ring.bounded`, `Ring.push_bounded` — the same slots, and stores that do not tell them apart;
* `Handover.step_bounded` — steps that do not tell them apart;
* `Handover.DeliversUnevicted`, `Handover.deliversUnevicted_step` — delivery in order unless
  something was evicted, which no step breaks;
* `Handover.DeliversUnevicted.reported_eq` — what follows once nothing is pending.
-/

namespace Ring

/-- The same slots, but a sighting that finds no room is dropped. -/
def bounded (r : Ring) : Ring :=
  { r with overflow := .dropNew }

/-- Whether a sighting is pending does not depend on what happens when there is no room. -/
theorem holdsSame_bounded (r : Ring) (s : Sighting) : r.bounded.holdsSame s = r.holdsSame s := by
  have hwalk : ∀ steps index, r.bounded.walkFinds s steps index = r.walkFinds s steps index := by
    intro steps
    induction steps with
    | zero => exact fun _ => rfl
    | succ steps ih =>
      intro index
      simp only [walkFinds, ih]
      rfl
  exact hwalk _ _

/-- As long as nothing is evicted, it does not matter what would be done in a full ring. -/
theorem push_bounded (r : Ring) {suppress : Bool} {s : Sighting}
    (h : (r.push suppress s).2 ≠ .evicted) :
    r.bounded.push suppress s = ((r.push suppress s).1.bounded, (r.push suppress s).2) := by
  unfold push at h ⊢
  rw [holdsSame_bounded, show r.bounded.isEmpty = r.isEmpty from rfl]
  by_cases hdup : (suppress && !r.isEmpty && r.holdsSame s) = true
  · simp only [if_pos hdup]
  · rw [if_neg hdup] at h
    simp only [if_neg hdup]
    -- Only a full ring looks at what is to be done with a new sighting.
    by_cases hfull : r.full = true
    · rw [if_pos hfull] at h
      rw [if_pos hfull, if_pos (show r.bounded.full = true from hfull)]
      cases hmode : r.overflow with
      | dropNew => rfl
      | evictOldest =>
        rw [hmode] at h
        exact absurd rfl h
    · rw [if_neg hfull, if_neg (show ¬r.bounded.full = true from hfull)]
      rfl

end Ring

namespace Handover

variable {σ : Type} {h : Handover σ}

/-- The same, but at slots that drop what finds no room. -/
def bounded (h : Handover σ) : Handover σ :=
  { h with ring := h.ring.bounded }

/-- A step at which nothing is evicted does the same to both. -/
theorem step_bounded (sink : Sink σ) {t : Turn} (h : Handover σ) (ht : h.evicts t = false) :
    h.bounded.step sink t = (h.step sink t).bounded := by
  cases t with
  | push suppress s =>
    have hne : (h.ring.push suppress s).2 ≠ .evicted := by
      intro hout
      simp [evicts, hout] at ht
    show (⟨(h.ring.bounded.push suppress s).1, h.worker,
      h.acts ++ [.pushed s (h.ring.bounded.push suppress s).2]⟩ : Handover σ) = _
    rw [Ring.push_bounded h.ring hne]
    rfl
  | close => rfl
  | work =>
    -- A worker looks and releases without regard to what a full ring does.
    have hawait : h.ring.bounded.await = h.ring.await := rfl
    have hrelease : h.ring.bounded.release = h.ring.release.bounded := by
      unfold Ring.release
      rw [show h.ring.bounded.isEmpty = h.ring.isEmpty from rfl]
      split <;> rfl
    simp only [step, Worker.step, bounded]
    cases h.worker.stage with
    | looking =>
      rw [hawait]
      cases h.ring.await <;> rfl
    | holding s => rfl
    | releasing =>
      rw [hrelease]
    | finished => rfl

/-- What was not evicted after a step was not evicted before, nor by the step. -/
theorem evicted_not_mem_of_step (sink : Sink σ) {t : Turn}
    (hnone : .evicted ∉ outcomesIn (h.step sink t).acts) :
    .evicted ∉ outcomesIn h.acts ∧ h.evicts t = false := by
  cases t with
  | push suppress s =>
    have hacts : (h.step sink (.push suppress s)).acts =
        h.acts ++ [.pushed s (h.ring.push suppress s).2] := rfl
    rw [hacts, outcomesIn_concat, List.mem_append, not_or] at hnone
    refine ⟨hnone.1, ?_⟩
    simp only [evicts, beq_eq_false_iff_ne]
    intro hout
    exact hnone.2 (by simp [outcomesIn, hout])
  | close =>
    have hacts : outcomesIn (h.step sink .close).acts = outcomesIn h.acts :=
      (outcomesIn_concat _ _).trans (List.append_nil _)
    rw [hacts] at hnone
    exact ⟨hnone, rfl⟩
  | work =>
    rw [outcomesIn_work] at hnone
    exact ⟨hnone, rfl⟩

/-- Unless a sighting was evicted, sightings are delivered in order. -/
def DeliversUnevicted (h : Handover σ) : Prop :=
  .evicted ∉ outcomesIn h.acts → h.bounded.InOrder

theorem deliversUnevicted_start {r : Ring} (hlist : r.toList = []) (state : σ) :
    (start r state).DeliversUnevicted :=
  fun _ => inOrder_start (r := r.bounded) rfl hlist state

/-- Up to the first eviction the two modes go the same way, and after it nothing is promised. -/
theorem deliversUnevicted_step (sink : Sink σ) (t : Turn) (hv : h.ring.Valid)
    (hi : h.DeliversUnevicted) : (h.step sink t).DeliversUnevicted := by
  intro hnone
  obtain ⟨hbefore, hstep⟩ := evicted_not_mem_of_step sink hnone
  have hv : h.bounded.ring.Valid := ⟨⟨⟨hv.head_lt, hv.tail_lt⟩, hv.two_le, hv.occupied⟩, hv.full_eq⟩
  rw [← step_bounded sink h hstep]
  exact inOrder_step sink h.bounded t hv (hi hbefore)

/-- If the worker has returned and left nothing pending, the sink was given what was stored, in
    order and each once. -/
theorem DeliversUnevicted.reported_eq (hi : h.DeliversUnevicted)
    (hnone : .evicted ∉ outcomesIn h.acts) (hfinished : h.worker.stage = .finished)
    (hlist : h.ring.toList = []) : reportedIn h.acts = storedIn h.acts := by
  have hin := hi hnone
  have hpending : (storedIn h.acts).drop (releasesIn h.acts) = [] := hin.pending.trans hlist
  have htold : reportedIn h.acts =
      (storedIn h.acts).take (releasesIn h.acts + h.worker.stage.ahead) := hin.told
  rw [htold, hfinished]
  exact List.take_of_length_le (List.drop_eq_nil_iff.1 hpending)

end Handover

end LanWatch
