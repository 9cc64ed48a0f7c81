import LanWatch.Proofs.Pending.Refinement
import LanWatch.Report.Drain

namespace LanWatch

/-!
# What draining does

Draining gives the pending sightings to the sink, oldest first and each once, whatever the sink says
to them, and leaves none.

* `drainUpTo_spec` — as many as are pending are taken;
* `drain_spec` — and `drain` takes that many.
-/

variable {σ : Type}

theorem drainUpTo_spec (sink : Sink σ) {n : Nat} {ring : Ring} (hv : ring.Valid)
    (hn : ring.toList.length = n) (handled : Nat) (state : σ) :
    (drainUpTo sink n handled ring state).handled = handled + n ∧
      (drainUpTo sink n handled ring state).state = (sink.reportAll state ring.toList).1 ∧
      (drainUpTo sink n handled ring state).ring.toList = [] := by
  -- By induction on the number of pending sightings.
  induction n generalizing ring handled state with
  | zero =>
    have hnil := List.eq_nil_of_length_eq_zero hn
    rw [hnil]
    exact ⟨rfl, rfl, hnil⟩
  | succ n ih =>
    obtain ⟨s, rest, hlist⟩ := List.exists_cons_of_length_eq_add_one hn
    have hfront : ring.front? = some s := by
      rw [Ring.front?_eq_head? hv.toLaid, hlist]
      rfl
    have hrest : ring.release.toList = rest := by
      rw [Ring.toList_release hv, hlist]
      rfl
    have hlength : ring.release.toList.length = n := by
      rw [hlist] at hn
      rw [hrest]
      exact Nat.succ.inj hn
    obtain ⟨hhandled, hstate, hnil⟩ :=
      ih (Ring.valid_release hv) hlength (handled + 1) (sink.report s state).state
    rw [drainUpTo, hfront, hlist]
    rw [hrest] at hstate
    exact ⟨by rw [hhandled]; omega, hstate, hnil⟩

/-- All that is pending is reported, in order, and nothing stays behind. -/
theorem drain_spec (sink : Sink σ) {ring : Ring} (hv : ring.Valid) (state : σ) :
    (drain sink ring state).handled = ring.toList.length ∧
      (drain sink ring state).state = (sink.reportAll state ring.toList).1 ∧
      (drain sink ring state).ring.toList = [] := by
  have hsize := Ring.length_toList hv.toLaid
  obtain ⟨hhandled, hstate, hnil⟩ := drainUpTo_spec sink hv hsize 0 state
  rw [Nat.zero_add] at hhandled
  exact ⟨hhandled.trans hsize.symm, hstate, hnil⟩

end LanWatch
