import LanWatch.Proofs.Capture.Running
import LanWatch.Proofs.Handover.Alone
import LanWatch.Proofs.Session.Accounting

namespace LanWatch

/-!
# One thread after the other

If the producer takes all its steps first, its steps are the rounds of the capture loop. If the slots
are closed then, and the worker takes its steps after that, they are those of draining. So what holds
for every order of steps holds of a session in which the sink reports once the capture is over.

* `Producer.deal_of_over`, `Producer.deal_of_goesOn` — a delivery brings the producer what it brings
  the loop;
* `Tandem.AfterProducing` — where the producer gets when nothing else happens;
* `Tandem.Stands`, `Tandem.Ended` — it stands where the capture loop stands between two rounds, or has
  ended like it;
* `Tandem.Stands.round`, `Tandem.Stands.loop` — a round of the loop, and all its rounds;
* `Tandem.run_in_sequence` — the capture loop, then the close, then `drain`.
-/

/-! ### What a delivery brings -/

namespace Producer

variable {σ : Type}

/-- A producer between two requests of a capture that has come this far. -/
def between (progress : Progress) (state : σ) (reads : Nat) : Producer σ :=
  { summary := progress.summary, state, reads, log := progress.log }

/-- What the producer leaves of itself and of the slots once it has stored the records of a frame and
    is about to look at the flag again. -/
def storeAll (p : Producer σ) (ring : Ring) (ss : List Sighting) (statsDue : Bool) :
    Producer σ × Ring :=
  let (summary, ring) := store p.summary ring ss
  (sayStats { p with summary } statsDue ring, ring)

variable {name : String} {policy : VlanPolicy} {progress : Progress} {d : Delivery} (state : σ)
  (reads : Nat)

/-- An answer that is final ends both. -/
theorem deal_of_over {c : Capture} (h : progress.deal name policy d = .over c) :
    ((between progress state reads).deal name policy d).stage = .returned c.result ∧
      ((between progress state reads).deal name policy d).log = c.fullLog ∧
      ((between progress state reads).deal name policy d).state = state ∧
      ((between progress state reads).deal name policy d).reads = reads ∧
      progress.ring = c.ring := by
  unfold Progress.deal at h
  unfold deal
  -- A frame and an idle read let the loop go on; the other three answers end it.
  cases hanswer : d.answer with
  | frame f | idle =>
    rw [hanswer] at h
    cases h
  | closed =>
    rw [hanswer] at h
    cases h
    exact ⟨rfl, rfl, rfl, rfl, rfl⟩
  | failed e | died =>
    rw [hanswer] at h
    cases h
    exact ⟨rfl, (List.append_nil _).symm, rfl, rfl, rfl⟩

/-- After any other answer, what is left to do are the records of a frame, if there is one, and the
    statistics. -/
theorem deal_of_goesOn {next : Progress} (h : progress.deal name policy d = .goesOn next) :
    ∃ ss, ((between progress state reads).deal name policy d).stage = .storing ss d.statsDue ∧
      ((between progress state reads).deal name policy d).storeAll progress.ring ss d.statsDue =
        (between next state reads, next.ring) := by
  unfold Progress.deal at h
  unfold deal
  -- A frame has its sightings to store, and an idle read none.
  cases hanswer : d.answer with
  | frame f =>
    rw [hanswer] at h
    cases h
    refine ⟨(dissect policy f.seen f.data).sightings, rfl, ?_⟩
    simp only [Progress.advance, hanswer]
    cases d.statsDue <;> rfl
  | idle =>
    rw [hanswer] at h
    cases h
    refine ⟨[], rfl, ?_⟩
    simp only [Progress.advance, hanswer]
    cases d.statsDue <;> rfl
  | closed | failed e | died =>
    rw [hanswer] at h
    cases h

variable {source : Source σ} {signals : Signals}

/-- As long as the flag is set, a producer asks its source and deals with the answer. -/
theorem ask_of_running (hrunning : signals.running reads = true) :
    (between progress state reads).ask source signals policy =
      deal source.name policy (between progress (source.read state).2 (reads + 1))
        ⟨(source.read state).1, signals.statsDue reads⟩ := by
  unfold ask
  exact if_pos hrunning

/-- Once the flag is cleared, a producer ends its loop. -/
theorem ask_of_clear (hclear : signals.running reads = false) :
    (between progress state reads).ask source signals policy =
      (between progress state reads).finish source.name := by
  unfold ask
  exact if_neg (Bool.eq_false_iff.1 hclear)

end Producer

namespace Tandem

variable {σ τ : Type} (source : Source σ) (signals : Signals) (policy : VlanPolicy) (sink : Sink τ)

theorem run_append (t : Tandem σ τ) (turns more : List Turn) :
    t.run source signals policy sink (turns ++ more) =
      (t.run source signals policy sink turns).run source signals policy sink more :=
  List.foldl_append

/-! ### Steps of the producer -/

/-- The producer alone gets from `t` to `t'`. -/
def AfterProducing (t t' : Tandem σ τ) : Prop :=
  ∃ n, t.run source signals policy sink (List.replicate n .produce) = t'

variable {source signals policy sink} {t t' t'' : Tandem σ τ}

theorem AfterProducing.refl : AfterProducing source signals policy sink t t :=
  ⟨0, rfl⟩

/-- One step, and then others. -/
theorem AfterProducing.step (h : AfterProducing source signals policy sink t' t'')
    (hstep : t.produce source signals policy sink = t') :
    AfterProducing source signals policy sink t t'' := by
  obtain ⟨n, hn⟩ := h
  refine ⟨n + 1, ?_⟩
  rw [List.replicate_succ]
  show (t.produce source signals policy sink).run source signals policy sink _ = t''
  rw [hstep, hn]

theorem AfterProducing.trans (h : AfterProducing source signals policy sink t t')
    (h' : AfterProducing source signals policy sink t' t'') :
    AfterProducing source signals policy sink t t'' := by
  obtain ⟨n, hn⟩ := h
  obtain ⟨n', hn'⟩ := h'
  refine ⟨n + n', ?_⟩
  rw [← List.replicate_append_replicate, run_append, hn, hn']

variable (source signals policy sink) in
/-- The producer stores records one after another, by induction on them, says how full the slots are
    if that is due, and is about to look at the flag again. -/
theorem afterProducing_store {statsDue : Bool} (ss : List Sighting)
    (hstage : t.producer.stage = .storing ss statsDue) :
    ∃ t', AfterProducing source signals policy sink t t' ∧
      (t'.producer, t'.handover.ring) = t.producer.storeAll t.handover.ring ss statsDue ∧
      t'.handover.worker = t.handover.worker := by
  -- Induction on the sightings that are left to store: each push is one move of the producer.
  induction ss generalizing t with
  | nil =>
    have hstep : t.produce source signals policy sink =
        { t with producer := t.producer.sayStats statsDue t.handover.ring } := by
      simp only [produce, hstage]
    exact ⟨_, .step .refl hstep, rfl, rfl⟩
  | cons s ss ih =>
    have hstep : t.produce source signals policy sink =
        { producer := t.producer.countStored ss statsDue (t.handover.ring.push true s).2
          handover := t.handover.step sink (.push true s) } := by
      simp only [produce, hstage]
    obtain ⟨t', hafter, hstored, hworker⟩ :=
      ih (t := t.produce source signals policy sink) (by rw [hstep]; rfl)
    rw [hstep] at hstored hworker
    exact ⟨t', hafter.step rfl, hstored, hworker⟩

/-! ### Rounds of the loop -/

/-- The producer is about to look at the flag, as a loop is between two rounds. -/
structure Stands (l : CaptureLoop σ) (t : Tandem σ τ) : Prop where
  producer_eq : t.producer = .between l.progress l.state l.reads
  ring_eq : t.handover.ring = l.progress.ring

/-- The producer has returned what a loop leaves that is over. -/
structure Ended (ended : CaptureLoop.End σ) (t : Tandem σ τ) : Prop where
  stage_eq : t.producer.stage = .returned ended.capture.result
  log_eq : t.producer.log = ended.capture.fullLog
  state_eq : t.producer.state = ended.state
  reads_eq : t.producer.reads = ended.reads
  ring_eq : t.handover.ring = ended.capture.ring

variable (source signals policy sink) in
/-- The first step of a round. -/
theorem Stands.produce_eq {l : CaptureLoop σ} (h : Stands l t) :
    t.produce source signals policy sink =
      ⟨.ask source signals policy (.between l.progress l.state l.reads), t.handover⟩ := by
  have hstage : t.producer.stage = .asking := by
    rw [h.producer_eq]
    rfl
  simp only [produce, hstage]
  rw [h.producer_eq]

variable (source signals policy sink) in
/-- The producer does what a round does, and the worker stays where it is. -/
theorem Stands.round {l : CaptureLoop σ} (h : Stands l t) :
    ∃ t', AfterProducing source signals policy sink t t' ∧
      t'.handover.worker = t.handover.worker ∧
      ((∃ next, l.round source signals policy = .goesOn next ∧ Stands next t') ∨
        ∃ ended, l.round source signals policy = .over ended ∧ Ended ended t') := by
  -- The flag decides between the two ends of a round, and then the answer of the source does.
  have hstep := h.produce_eq source signals policy sink
  cases hrunning : signals.running l.reads with
  | false =>
    rw [Producer.ask_of_clear l.state l.reads hrunning] at hstep
    exact ⟨_, .step .refl hstep, rfl,
      .inr ⟨_, CaptureLoop.round_of_clear hrunning, ⟨rfl, rfl, rfl, rfl, h.ring_eq⟩⟩⟩
  | true =>
    rw [Producer.ask_of_running l.state l.reads hrunning] at hstep
    rcases hdeal : l.progress.deal source.name policy
        ⟨(source.read l.state).1, signals.statsDue l.reads⟩ with progress | c
    · -- The round goes on once all sightings of the frame are stored.
      obtain ⟨ss, hstage, hall⟩ :=
        Producer.deal_of_goesOn (source.read l.state).2 (l.reads + 1) hdeal
      obtain ⟨t', hafter, hstored, hworker⟩ :=
        afterProducing_store source signals policy sink ss
          (t := t.produce source signals policy sink) (by rw [hstep]; exact hstage)
      rw [hstep] at hstored hworker
      rw [← h.ring_eq] at hall
      obtain ⟨hproducer, hring⟩ := Prod.mk.inj (hstored.trans hall)
      exact ⟨t', hafter.step rfl, hworker,
        .inl ⟨_, CaptureLoop.round_of_goesOn hrunning hdeal, ⟨hproducer, hring⟩⟩⟩
    · obtain ⟨hstage, hlog, hstate, hreads, hring⟩ :=
        Producer.deal_of_over (source.read l.state).2 (l.reads + 1) hdeal
      exact ⟨_, .step .refl hstep, rfl, .inr ⟨_, CaptureLoop.round_of_over hrunning hdeal,
        ⟨hstage, hlog, hstate, hreads, h.ring_eq.trans hring⟩⟩⟩

variable (sink) in
/-- The producer does what the loop does, by induction on its rounds. -/
theorem Stands.loop {l : CaptureLoop σ} {ended : CaptureLoop.End σ} (h : Stands l t) {rounds : Nat}
    (hrun : CaptureLoop.run source signals policy rounds l = some ended) :
    ∃ t', AfterProducing source signals policy sink t t' ∧
      t'.handover.worker = t.handover.worker ∧ Ended ended t' := by
  induction rounds generalizing l t with
  | zero => cases hrun
  | succ rounds ih =>
    obtain ⟨t', hafter, hworker, ⟨next, hround, hstands⟩ | ⟨ended', hround, hended⟩⟩ :=
      h.round source signals policy sink
    · rw [CaptureLoop.run, hround] at hrun
      obtain ⟨t'', hafter', hworker', hended⟩ := ih hstands hrun
      exact ⟨t'', hafter.trans hafter', hworker'.trans hworker, hended⟩
    · rw [CaptureLoop.run, hround] at hrun
      cases hrun
      exact ⟨t', hafter, hworker, hended⟩

/-! ### The whole session -/

/-- The worker alone, by induction on its steps. -/
theorem run_work (t : Tandem σ τ) (n : Nat) :
    t.run source signals policy sink (List.replicate n .work) =
      { t with handover := t.handover.run sink (List.replicate n .work) } := by
  induction n generalizing t with
  | zero => rfl
  | succ n ih =>
    rw [List.replicate_succ, List.replicate_succ]
    exact ih _

/-- The loop runs to its end, the slots are closed, and the worker goes on alone: the producer has
    returned what the loop returns, and the worker what `drain` returns. -/
theorem run_in_sequence (source : Source σ) (signals : Signals) (policy : VlanPolicy)
    (sink : Sink τ) (state : σ) (kept : τ) {capacity : Nat} (hcap : 2 ≤ capacity)
    (overflow : Overflow) {rounds : Nat} {ended : CaptureLoop.End σ}
    (hrun : CaptureLoop.run source signals policy rounds
      (.start source state (.empty capacity overflow)) = some ended) :
    ∃ n m t, t = (start source state (.empty capacity overflow) kept).run source signals policy sink
        (List.replicate n .produce ++ .close :: List.replicate m .work) ∧
      t.producer.stage = .returned ended.capture.result ∧ t.producer.log = ended.capture.fullLog ∧
      let drained := drain sink ended.capture.ring.close kept
      t.handover.ring = drained.ring ∧
        t.handover.worker = ⟨.finished, drained.handled, drained.state, drained.log⟩ := by
  have hstart : Stands (.start source state (.empty capacity overflow))
      (start source state (.empty capacity overflow) kept) := ⟨rfl, rfl⟩
  obtain ⟨t, ⟨n, hn⟩, hworker, hended⟩ := hstart.loop sink hrun
  have hvalid : t.handover.ring.Valid := by
    rw [← hn]
    exact ((balanced_start source state kept hcap overflow).run source signals policy sink _).valid
  have hclose : t.step source signals policy sink .close =
      { t with handover := t.handover.step sink .close } := by
    refine if_pos ?_
    rw [hended.stage_eq]
    rfl
  -- The worker has not taken a step yet, and now takes those of `drain`.
  have hclosed := Ring.valid_close hvalid
  obtain ⟨acts, hwork⟩ := Handover.run_work_eq_drainUpTo sink t.handover.ring.close.size hclosed rfl
    (Ring.length_toList hclosed.toLaid) 0 kept [] (t.handover.acts ++ [.closed])
  let drained := drain sink t.handover.ring.close kept
  let worker : Worker τ := ⟨.finished, drained.handled, drained.state, drained.log⟩
  refine ⟨n, 3 * t.handover.ring.close.size + 1, ⟨t.producer, ⟨drained.ring, worker, acts⟩⟩, ?_,
    hended.stage_eq, hended.log_eq, ?_⟩
  · rw [run_append, hn]
    show _ = run source signals policy sink (t.step source signals policy sink .close) _
    rw [hclose, run_work]
    show _ = (⟨t.producer, Handover.run sink ⟨_, t.handover.worker, _⟩ _⟩ : Tandem σ τ)
    rw [hworker]
    exact (congrArg (Tandem.mk t.producer) hwork).symm
  · rw [← hended.ring_eq]
    exact ⟨rfl, rfl⟩

end Tandem

end LanWatch
