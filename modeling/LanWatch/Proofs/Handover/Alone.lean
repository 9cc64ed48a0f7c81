import LanWatch.Proofs.Handover.Steps

namespace LanWatch.Handover

/-!
# A worker alone

Once nothing is stored any more, the steps of the worker are those of draining. What is proved of a
worker among other steps therefore holds of `drain`.

* `run_work_looking` — three steps report a sighting and release its slot;
* `run_work_eq_drain` — the worker goes on until it returns what `drain` returns.
-/

variable {σ : Type}

/-- The worker looks at the oldest sighting, reports it and releases its slot. -/
theorem run_work_looking (sink : Sink σ) (n : Nat) {ring : Ring} {s : Sighting}
    (hfront : ring.front? = some s) (handled : Nat) (state : σ) (log : Log) (acts : List Act) :
    run sink ⟨ring, ⟨.looking, handled, state, log⟩, acts⟩ (List.replicate (n + 3) .work) =
      run sink
        ⟨ring.release,
          ⟨.looking, handled + 1, (sink.report s state).state,
            log ++ ((sink.report s state).log ++
              (sink.report s state).error.toList.map (failedReportEvent s))⟩,
          acts ++ [.looked s] ++ [.reported s (sink.report s state).error] ++ [.released]⟩
        (List.replicate n .work) := by
  rw [List.replicate_succ, List.replicate_succ, List.replicate_succ, run_cons, run_cons, run_cons]
  simp only [step, Worker.step, Ring.await, hfront]

theorem run_work_eq_drainUpTo (sink : Sink σ) (n : Nat) {ring : Ring} (hv : ring.Valid)
    (hclosed : ring.closed = true) (hn : ring.toList.length = n) (handled : Nat) (state : σ)
    (log : Log) (acts : List Act) :
    ∃ acts', run sink ⟨ring, ⟨.looking, handled, state, log⟩, acts⟩
        (List.replicate (3 * n + 1) .work) =
      ⟨(drainUpTo sink n handled ring state).ring,
        ⟨.finished, (drainUpTo sink n handled ring state).handled,
          (drainUpTo sink n handled ring state).state,
          log ++ ((drainUpTo sink n handled ring state).log ++
            [drainedEvent (drainUpTo sink n handled ring state).handled])⟩, acts'⟩ := by
  -- By induction on the pending sightings: each of them is looked at, reported and released before
  -- the next one.
  have hfront := Ring.front?_eq_head? hv.toLaid
  -- Each pending sighting takes three steps, and the return takes one more.
  induction n generalizing ring handled state log acts with
  | zero =>
    rw [List.eq_nil_of_length_eq_zero hn] at hfront
    refine ⟨acts ++ [.returned handled], ?_⟩
    show step sink _ .work = _
    simp [step, Worker.step, Ring.await, hfront, hclosed, drainUpTo]
  | succ n ih =>
    obtain ⟨s, rest, hlist⟩ := List.exists_cons_of_length_eq_add_one hn
    have hsome : ring.front? = some s := by
      rw [hfront, hlist]
      rfl
    have hlen : ring.release.toList.length = n := by
      rw [Ring.toList_release hv, List.length_tail, hn]
      rfl
    have hvalid := Ring.valid_release hv
    obtain ⟨acts', hrun⟩ := ih hvalid ((Ring.release_keeps ring).2.trans hclosed) hlen (handled + 1)
      (sink.report s state).state
      (log ++ ((sink.report s state).log ++
        (sink.report s state).error.toList.map (failedReportEvent s)))
      (acts ++ [.looked s] ++ [.reported s (sink.report s state).error] ++ [.released])
      (Ring.front?_eq_head? hvalid.toLaid)
    refine ⟨acts', ?_⟩
    rw [show 3 * (n + 1) + 1 = 3 * n + 1 + 3 by omega, run_work_looking sink _ hsome, hrun]
    simp [drainUpTo, hsome, List.append_assoc]

/-- With closed slots, a worker that is not disturbed returns after finitely many steps, and leaves
    what `drain` leaves. -/
theorem run_work_eq_drain (sink : Sink σ) {ring : Ring} (hv : ring.Valid)
    (hclosed : ring.closed = true) (state : σ) :
    ∃ acts, (start ring state).run sink (List.replicate (3 * ring.size + 1) .work) =
      ⟨(drain sink ring state).ring,
        ⟨.finished, (drain sink ring state).handled, (drain sink ring state).state,
          (drain sink ring state).log⟩, acts⟩ :=
  run_work_eq_drainUpTo sink ring.size hv hclosed (Ring.length_toList hv.toLaid) 0 state [] []

end LanWatch.Handover
