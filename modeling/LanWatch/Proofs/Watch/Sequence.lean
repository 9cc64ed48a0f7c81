import LanWatch.Proofs.Session.InSequence
import LanWatch.Proofs.Watch.Exit
import LanWatch.Proofs.Watch.Hearing

namespace LanWatch

/-!
# The threads one after another

If the producer takes all its steps before the worker takes any, the three threads come to what
a session comes to in which the sink reports once the capture is over.

* `Daemon.run_produce`, `Daemon.run_work` — the turns of one thread alone;
* `Daemon.run_to_end` — the turns of one after the other, with the close in between;
* `Daemon.run_in_sequence` — the session.
-/

theorem Tandem.run_cons {σ τ : Type} (source : Source σ) (signals : Signals) (policy : VlanPolicy)
    (sink : Sink τ) (t : Tandem σ τ) (turn : Turn) (turns : List Turn) :
    t.run source signals policy sink (turn :: turns) =
      (t.step source signals policy sink turn).run source signals policy sink turns := rfl

namespace Daemon

variable {σ τ : Type} (source : Source σ) (signals : Signals) (policy : VlanPolicy) (sink : Sink τ)
  {d : Daemon σ τ}

theorem run_cons (d : Daemon σ τ) (turn : Turn) (turns : List Turn) :
    d.run source signals policy sink (turn :: turns) =
      (d.step source signals policy sink turn).run source signals policy sink turns := rfl

/-- The producer alone, by induction on its steps. -/
theorem run_produce (hstarted : d.overseer.hasProducer = true) (n : Nat) {after : Daemon σ τ}
    (hafter : d.run source signals policy sink (List.replicate n .produce) = after) :
    after.tandem = d.tandem.run source signals policy sink (List.replicate n .produce) ∧
      after.overseer = d.overseer ∧ after.farewell = d.farewell := by
  induction n generalizing d with
  | zero =>
    subst hafter
    exact ⟨rfl, rfl, rfl⟩
  | succ n ih =>
    have hstep : d.step source signals policy sink .produce =
        d.moveOn (d.tandem.step source signals policy sink .produce) := if_pos hstarted
    rw [List.replicate_succ, run_cons, hstep] at hafter
    exact ih (d := d.moveOn _) hstarted hafter

/-- A worker that has returned changes nothing any more. -/
theorem work_of_finished (hfinished : d.tandem.handover.worker.stage = .finished) :
    d.tandem.step source signals policy sink .work = d.tandem := by
  simp only [Tandem.step, Handover.step, Worker.step, hfinished]

/-- The worker goes on at its slots, and its leave is that of a worker which has returned. -/
theorem work_keeps (hleft : d.LeftFinished sink) :
    (d.work source signals policy sink).tandem =
        d.tandem.step source signals policy sink .work ∧
      (d.work source signals policy sink).overseer = d.overseer ∧
      (d.work source signals policy sink).LeftFinished sink := by
  unfold work
  split
  case h_1 hfinished _ =>
    refine ⟨(work_of_finished source signals policy sink hfinished).symm, rfl, ?_⟩
    rintro farewell hfarewell
    cases hfarewell
    exact ⟨hfinished, rfl⟩
  case h_2 =>
    exact ⟨rfl, rfl, hleft.moveOn fun hfinished =>
      Tandem.worker_step_of_finished hfinished .work⟩

/-- The worker alone, by induction on its steps. Its leave changes nothing at the slots. -/
theorem run_work (hstarted : d.overseer.hasWorker = true) (hleft : d.LeftFinished sink) (n : Nat)
    {after : Daemon σ τ}
    (hafter : d.run source signals policy sink (List.replicate n .work) = after) :
    after.tandem = d.tandem.run source signals policy sink (List.replicate n .work) ∧
      after.overseer = d.overseer ∧ after.LeftFinished sink := by
  -- By induction on the turns of the worker: none of them touches the main thread.
  induction n generalizing d with
  | zero =>
    subst hafter
    exact ⟨rfl, rfl, hleft⟩
  | succ n ih =>
    have hstep : d.step source signals policy sink .work = d.work source signals policy sink :=
      if_pos hstarted
    obtain ⟨htandem, hoverseer, hkept⟩ := work_keeps source signals policy sink hleft
    rw [List.replicate_succ, run_cons, hstep] at hafter
    obtain ⟨htandem', hoverseer', hkept'⟩ := ih (by rw [hoverseer]; exact hstarted) hkept hafter
    rw [htandem] at htandem'
    exact ⟨htandem', hoverseer'.trans hoverseer, hkept'⟩

/-- Once the worker has returned, its next turn at the latest is its leave. -/
theorem work_of_leftFinished (hleft : d.LeftFinished sink)
    (hfinished : d.tandem.handover.worker.stage = .finished) :
    (d.work source signals policy sink).tandem = d.tandem ∧
      (d.work source signals policy sink).overseer = d.overseer ∧
      (d.work source signals policy sink).farewell =
        some (sink.stop d.tandem.handover.worker.state) := by
  obtain ⟨htandem, hoverseer, -⟩ := work_keeps source signals policy sink hleft
  rw [work_of_finished source signals policy sink hfinished] at htandem
  refine ⟨htandem, hoverseer, ?_⟩
  unfold work
  split
  case h_1 => rfl
  -- A worker that has left before has left the same farewell.
  case h_2 hnot =>
    obtain ⟨farewell, hfarewell⟩ := Option.ne_none_iff_exists'.1 (hnot hfinished)
    show d.farewell = _
    rw [hfarewell, (hleft farewell hfarewell).2]

/-- The main thread learns that the producer has returned, and closes the slots. -/
theorem run_close {result : Except CaptureError Summary} (hplace : d.overseer = .awaitingProducer)
    (hstage : d.tandem.producer.stage = .returned result) {after : Daemon σ τ}
    (hafter : d.run source signals policy sink [.oversee, .oversee] = after) :
    after.tandem = d.tandem.step source signals policy sink .close ∧
      after.overseer = .awaitingWorker result ∧ after.farewell = d.farewell := by
  -- The producer has returned, so the first turn sees it and the second one closes the slots.
  have hfirst : d.oversee source sink = { d with overseer := .closing result } := by
    simp only [oversee, hplace, hstage]
  have hclose : d.tandem.step source signals policy sink .close =
      { d.tandem with handover := d.tandem.handover.step sink .close } := by
    refine if_pos ?_
    rw [hstage]
    rfl
  subst hafter
  show ((d.oversee source sink).oversee source sink).tandem = _ ∧
    ((d.oversee source sink).oversee source sink).overseer = _ ∧
      ((d.oversee source sink).oversee source sink).farewell = _
  rw [hfirst, hclose]
  exact ⟨rfl, rfl, rfl⟩

/-- The main thread learns that the worker has left, and ends. -/
theorem oversee_of_left {result : Except CaptureError Summary}
    (hplace : d.overseer = .awaitingWorker result) (hleft : d.farewell.isSome = true) :
    (d.oversee source sink).tandem = d.tandem ∧ (d.oversee source sink).farewell = d.farewell ∧
      (d.oversee source sink).overseer = .ended result := by
  simp [oversee, hplace, hleft]

/-- The producer goes on alone until it returns, the main thread closes the slots, the worker goes
    on alone until it returns, and then it leaves and the main thread ends. -/
theorem run_to_end {t : Tandem σ τ} {result : Except CaptureError Summary} {n m : Nat}
    (hplace : d.overseer = .awaitingProducer) (hleft : d.farewell = none)
    (ht : d.tandem.run source signals policy sink
      (List.replicate n .produce ++ .close :: List.replicate m .work) = t)
    (hstage : t.producer.stage = .returned result)
    (hfinished : t.handover.worker.stage = .finished) {after : Daemon σ τ}
    (hafter : d.run source signals policy sink (List.replicate n .produce ++
      ([.oversee, .oversee] ++ (List.replicate m .work ++ [.work, .oversee]))) = after) :
    after.tandem = t ∧ after.overseer = .ended result ∧
      after.farewell = some (sink.stop t.handover.worker.state) := by
  rw [Tandem.run_append, Tandem.run_cons] at ht
  rw [run_append, run_append, run_append] at hafter
  -- Closing and draining leave the producer alone, so it has returned before.
  generalize hproduced : d.tandem.run source signals policy sink (List.replicate n .produce) =
    produced at ht
  have hproducer : produced.producer = t.producer := by
    rw [← ht, Tandem.run_work]
    simp only [Tandem.step]
    split <;> rfl
  obtain ⟨hfirst, hplace₁, hleft₁⟩ :=
    run_produce source signals policy sink (by rw [hplace]; rfl) n (d := d) rfl
  obtain ⟨hsecond, hplace₂, hleft₂⟩ := run_close source signals policy sink
    (hplace₁.trans hplace) (by rw [hfirst, hproduced, hproducer]; exact hstage) rfl
  obtain ⟨hthird, hplace₃, hleft₃⟩ := run_work source signals policy sink
    (by rw [hplace₂]; rfl) (fun farewell hfarewell => by
      rw [hleft₂, hleft₁, hleft] at hfarewell
      cases hfarewell) m rfl
  rw [hsecond, hfirst, hproduced, ht] at hthird
  obtain ⟨hfourth, hplace₄, hleft₄⟩ :=
    work_of_leftFinished source signals policy sink hleft₃ (by rw [hthird]; exact hfinished)
  rw [hthird] at hfourth hleft₄
  rw [hplace₃, hplace₂] at hplace₄
  obtain ⟨hlast, hleft₅, hplace₅⟩ := oversee_of_left source sink hplace₄ (by rw [hleft₄]; rfl)
  have hwork : ∀ d' : Daemon σ τ, d'.overseer.hasWorker = true →
      d'.run source signals policy sink [.work, .oversee] =
        (d'.work source signals policy sink).oversee source sink := fun d' hd' =>
    congrArg (oversee source sink) (if_pos hd')
  rw [hwork _ (by rw [hplace₃, hplace₂]; rfl)] at hafter
  subst hafter
  exact ⟨hlast.trans hfourth, hplace₅, hleft₅.trans hleft₄⟩

/-- The loop runs to its end before the worker takes a step: what the three threads come to is what
    the session comes to, with all its deliveries. -/
theorem run_in_sequence (state : σ) (kept : τ) {capacity : Nat} (hcap : 2 ≤ capacity)
    (overflow : Overflow) {last : Nat} (hends : source.EndsAt state signals last) :
    let session := runSession sink kept source.name policy (.empty capacity overflow)
      (source.deliveries state signals (signals.reads last))
    ∃ turns d log,
      d = (start source state (.empty capacity overflow) kept).run source signals policy sink
        turns ∧
      d.overseer = .ended session.capture.result ∧
      d.tandem.producer.log = session.capture.fullLog ∧
      d.tandem.handover.worker.handled = session.handled ∧
      d.farewell = some (session.state, log) ∧
      session.closing = d.tandem.handover.worker.log ++ log := by
  intro session
  have hloop := CaptureLoop.run_reached_of_halts policy (.empty capacity overflow) hends.first
    hends.halts (Nat.zero_le last) (by omega : last < 0 + (last + 1))
  obtain ⟨n, m, t, ht, hstage, hlog, -, hworker⟩ :=
    Tandem.run_in_sequence source signals policy sink state (sink.start source.name kept).1 hcap
      overflow hloop
  -- Three turns of the main thread open the sink and start the others.
  have hstarting : (start source state (.empty capacity overflow) kept).run source signals policy
      sink [.oversee, .oversee, .oversee] =
      { overseer := .awaitingProducer
        tandem := .start source state (.empty capacity overflow) (sink.start source.name kept).1
        history := [.opened]
        log := (sink.start source.name kept).2 } := rfl
  obtain ⟨htandem, hended, hfarewell⟩ := run_to_end source signals policy sink (d := Daemon.run
    source signals policy sink _ [.oversee, .oversee, .oversee]) (by rw [hstarting])
    (by rw [hstarting]) (by rw [hstarting]; exact ht.symm) hstage (by rw [hworker]) rfl
  rw [← run_append] at htandem hended hfarewell
  rw [hworker] at hfarewell
  refine ⟨_, _, _, rfl, hended, ?_, ?_, hfarewell, ?_⟩
  · rw [htandem]
    exact hlog
  · rw [htandem, hworker]
    rfl
  · rw [htandem, hworker]
    rfl

end Daemon

end LanWatch
