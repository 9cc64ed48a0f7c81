import LanWatch.Proofs.Handover.Hearing
import LanWatch.Proofs.Watch.Threads

namespace LanWatch

/-!
# What the sink of a running program hears

The sink is told the name of the interface, then it is given sightings, and at last it is told that
nothing follows. The history tells of each of these calls. Here each of them is tied to the state
that the sink keeps: the main thread hands the worker what the sink made of the opening, the worker
keeps what the sink makes of each report, and its leave is what the sink makes of the end.

* `Handover.worker_step_of_finished` — a worker that has returned stays as it is;
* `Tandem.hears_step` — a step of one of the two threads;
* `Daemon.LeftFinished` — the leave of a worker, as what the sink made of it;
* `Daemon.Attended` — what the sink keeps, before it is opened and afterwards;
* `Daemon.Attended.step`, `Daemon.Attended.run` — no step breaks that, and no run.
-/

/-! ### The slots -/

variable {σ τ : Type}

/-- Whoever takes the step, a worker that has returned stays as it is. -/
theorem Handover.worker_step_of_finished (sink : Sink τ) {h : Handover τ}
    (hfinished : h.worker.stage = .finished) (turn : Turn) :
    (h.step sink turn).worker = h.worker := by
  cases turn with
  | push suppress s => rfl
  | close => rfl
  | work => simp only [step, Worker.step, hfinished]

namespace Tandem

variable {source : Source σ} {signals : Signals} {policy : VlanPolicy} {sink : Sink τ}
  {t : Tandem σ τ}

/-- A producer at work is not heard, and a worker is heard as at its slots alone. -/
theorem hears_step {before : τ} (hi : sink.Hears before t.handover.acts t.handover.worker.state)
    (turn : Turn) :
    sink.Hears before (t.step source signals policy sink turn).handover.acts
      (t.step source signals policy sink turn).handover.worker.state := by
  rcases t.handover_step source signals policy sink turn with heq | ⟨u, heq⟩
  · rw [heq]
    exact hi
  · rw [heq]
    exact Handover.hears_step hi u

/-- Whichever thread goes on, a worker that has returned stays as it is. -/
theorem worker_step_of_finished (hfinished : t.handover.worker.stage = .finished) (turn : Turn) :
    (t.step source signals policy sink turn).handover.worker = t.handover.worker := by
  rcases t.handover_step source signals policy sink turn with heq | ⟨u, heq⟩
  · rw [heq]
  · rw [heq, Handover.worker_step_of_finished sink hfinished]

end Tandem

/-- A worker is started only after the sink was told the name of the interface. -/
theorem Overseer.hasOpened_of_hasWorker {o : Overseer} (h : o.hasWorker = true) :
    o.hasOpened = true := by
  cases o <;> first | rfl | cases h

namespace Daemon

variable {source : Source σ} {signals : Signals} {policy : VlanPolicy} {sink : Sink τ}
  {state : σ} {kept : τ} {d : Daemon σ τ}

/-! ### The leave -/

/-- A worker that has taken its leave took it in the state in which it returned. -/
def LeftFinished (sink : Sink τ) (d : Daemon σ τ) : Prop :=
  ∀ farewell, d.farewell = some farewell → d.tandem.handover.worker.stage = .finished ∧
    farewell = sink.stop d.tandem.handover.worker.state

/-- What goes on after the leave leaves the worker as it is. -/
theorem LeftFinished.moveOn (h : d.LeftFinished sink) {t : Tandem σ τ}
    (hworker : d.tandem.handover.worker.stage = .finished →
      t.handover.worker = d.tandem.handover.worker) : (d.moveOn t).LeftFinished sink := by
  intro farewell hfarewell
  obtain ⟨hfinished, heq⟩ := h farewell hfarewell
  show t.handover.worker.stage = _ ∧ _ = sink.stop t.handover.worker.state
  rw [hworker hfinished]
  exact ⟨hfinished, heq⟩

/-! ### The calls of the sink -/

/-- What the sink keeps is what came of its calls. Nobody calls it before it is opened; then it is
    told the name of the interface and given the reported sightings; and it is told that nothing
    follows in the state that these have left. -/
structure Attended (source : Source σ) (sink : Sink τ) (kept : τ) (d : Daemon σ τ) : Prop where
  unopened : d.overseer.hasOpened = false → d.tandem.handover.worker.state = kept
  heard : d.overseer.hasOpened = true →
    sink.Hears (sink.start source.name kept).1 d.tandem.handover.acts
      d.tandem.handover.worker.state
  left : d.LeftFinished sink

/-- The sink was not opened yet, and keeps what it was given. -/
theorem attended_start (source : Source σ) (sink : Sink τ) (state : σ) (r : Ring) (kept : τ) :
    (start source state r kept).Attended source sink kept where
  unopened _ := rfl
  heard hopened := by cases hopened
  left _ hfarewell := by cases hfarewell

/-- The main thread goes on, and calls nobody. -/
theorem Attended.goOn (h : d.Attended source sink kept) {overseer : Overseer} {log : Log}
    (hopened : overseer.hasOpened = d.overseer.hasOpened) :
    ({ d with overseer, log } : Daemon σ τ).Attended source sink kept where
  unopened hnot := h.unopened (hopened ▸ hnot)
  heard hyes := h.heard (hopened ▸ hyes)
  left := h.left

/-- A step of the two threads, or the close, once the sink is opened. -/
theorem Attended.moveOn (h : d.Attended source sink kept) (hopened : d.overseer.hasOpened = true)
    {t : Tandem σ τ} {overseer : Overseer} (hstill : overseer.hasOpened = true)
    (hheard : ∀ before, sink.Hears before d.tandem.handover.acts d.tandem.handover.worker.state →
      sink.Hears before t.handover.acts t.handover.worker.state)
    (hworker : d.tandem.handover.worker.stage = .finished →
      t.handover.worker = d.tandem.handover.worker) :
    ({ d.moveOn t with overseer } : Daemon σ τ).Attended source sink kept where
  unopened hnot := by
    have hnot : overseer.hasOpened = false := hnot
    rw [hstill] at hnot
    cases hnot
  heard _ := hheard _ (h.heard hopened)
  left := h.left.moveOn hworker

/-- A step of the two threads. -/
theorem Attended.advance (h : d.Attended source sink kept) (hworker : d.overseer.hasWorker = true)
    (turn : Tandem.Turn) :
    (d.moveOn (d.tandem.step source signals policy sink turn)).Attended source sink kept :=
  have hopened := Overseer.hasOpened_of_hasWorker hworker
  h.moveOn hopened hopened (fun _ hi => Tandem.hears_step hi turn)
    fun hfinished => Tandem.worker_step_of_finished hfinished turn

/-- The sink is told the name of the interface. It has heard nothing before, since there is no
    worker yet. -/
theorem Attended.openSink (h : d.Attended source sink kept) (hopening : d.overseer = .opening)
    (hacts : d.tandem.handover.acts = []) (hleft : d.farewell = none) :
    (d.openSink source sink).Attended source sink kept where
  unopened hnot := by cases hnot
  heard _ := by
    show sink.Hears _ d.tandem.handover.acts
      (sink.start source.name d.tandem.handover.worker.state).1
    rw [hacts, h.unopened (by rw [hopening]; rfl)]
    exact .nil _
  left farewell hfarewell := by
    have hfarewell : d.farewell = some farewell := hfarewell
    rw [hleft] at hfarewell
    cases hfarewell

/-! ### Every step -/

/-- The main thread calls the sink only to open it. -/
theorem Attended.oversee (h : d.Attended source sink kept)
    (ho : d.Orderly source state signals) : (d.oversee source sink).Attended source sink kept := by
  unfold Daemon.oversee
  cases hplace : d.overseer with
  | opening =>
    obtain ⟨hacts, hleft⟩ := ho.unstarted (by rw [hplace]; rfl)
    exact h.openSink hplace hacts hleft
  | startingWorker => exact h.goOn (by rw [hplace]; rfl)
  | startingProducer => exact h.goOn (by rw [hplace]; rfl)
  | awaitingProducer =>
    cases d.tandem.producer.stage with
    | asking => exact h
    | storing rest statsDue => exact h
    | returned result => exact h.goOn (by rw [hplace]; rfl)
  | closing result =>
    exact h.moveOn (by rw [hplace]; rfl) rfl (fun _ hi => Handover.hears_step hi .close)
      fun hfinished => Handover.worker_step_of_finished sink hfinished .close
  | awaitingWorker result =>
    simp only []
    split
    case isTrue => exact h.goOn (by rw [hplace]; rfl)
    case isFalse => exact h
  | ended result => exact h

/-- The worker goes on, or takes its leave of the sink. -/
theorem Attended.work (h : d.Attended source sink kept) (hworker : d.overseer.hasWorker = true) :
    (d.work source signals policy sink).Attended source sink kept := by
  unfold Daemon.work
  split
  case h_1 hfinished _ =>
    refine ⟨h.unopened, h.heard, ?_⟩
    rintro farewell hfarewell
    cases hfarewell
    exact ⟨hfinished, rfl⟩
  case h_2 => exact h.advance hworker .work

theorem Attended.step (h : d.Attended source sink kept) (ho : d.Orderly source state signals)
    (turn : Turn) : (d.step source signals policy sink turn).Attended source sink kept := by
  -- One case for each thread. A thread that was not started yet calls nobody.
  cases turn with
  | oversee => exact h.oversee ho
  | produce =>
    simp only [Daemon.step]
    split
    case isTrue hstarted => exact h.advance (Overseer.hasWorker_of_hasProducer hstarted) .produce
    case isFalse => exact h
  | work =>
    simp only [Daemon.step]
    split
    case isTrue hstarted => exact h.work hstarted
    case isFalse => exact h

variable (policy) in
theorem Attended.run (h : d.Attended source sink kept) (ho : d.Orderly source state signals)
    (turns : List Turn) :
    (d.run source signals policy sink turns).Attended source sink kept := by
  -- By induction on the turns. The order of the threads is kept along the way, for it tells that
  -- nothing was reported before the sink was opened.
  induction turns generalizing d with
  | nil => exact h
  | cons turn turns ih => exact ih (h.step ho turn) (ho.step policy sink turn)

end Daemon

end LanWatch
