import LanWatch.Proofs.Handover.Unevicted
import LanWatch.Proofs.Session.Following
import LanWatch.Watch.Daemon

namespace LanWatch

/-!
# What the three threads keep in order

Whatever the order of steps, the main thread knows how the capture ended before it closes the slots,
and the worker has returned before it takes leave of the sink. So the history of the sink and the
slots begins with the opening of the sink, and ends with the leave.

* `Tandem.handover_step`, `Tandem.acts_step` — a step of one of the two threads, seen from the
  slots;
* `Daemon.Orderly` — what holds between the steps of three threads;
* `Daemon.Orderly.moveOn` — a step of the two threads, or the close;
* `Daemon.Orderly.step`, `Daemon.Orderly.run` — no step breaks the order, and no run.
-/

/-! ### The slots -/

/-- What was done stays in the history. -/
theorem Handover.acts_step {τ : Type} (sink : Sink τ) (h : Handover τ) (t : Turn) :
    h.acts <+: (h.step sink t).acts := by
  cases t with
  | push suppress s => exact List.prefix_append _ _
  | close => exact List.prefix_append _ _
  | work =>
    simp only [step]
    cases h.worker.step sink h.ring with
    | none => exact List.prefix_refl _
    | some next => exact List.prefix_append _ _

namespace Tandem

variable {σ τ : Type} (source : Source σ) (signals : Signals) (policy : VlanPolicy) (sink : Sink τ)
  (t : Tandem σ τ)

/-- A step of one of the two threads is at most one step at the slots. -/
theorem handover_step (turn : Turn) :
    (t.step source signals policy sink turn).handover = t.handover ∨
      ∃ u, (t.step source signals policy sink turn).handover = t.handover.step sink u := by
  -- The producer pushes only while it has sightings to store, and the close waits for its return.
  cases turn with
  | produce =>
    simp only [step, produce]
    cases t.producer.stage with
    | asking => exact .inl rfl
    | returned result => exact .inl rfl
    | storing rest statsDue =>
      cases rest with
      | nil => exact .inl rfl
      | cons s rest => exact .inr ⟨.push true s, rfl⟩
  | close =>
    simp only [step]
    split
    · exact .inr ⟨.close, rfl⟩
    · exact .inl rfl
  | work => exact .inr ⟨.work, rfl⟩

theorem acts_step (turn : Turn) :
    t.handover.acts <+: (t.step source signals policy sink turn).handover.acts := by
  rcases t.handover_step source signals policy sink turn with heq | ⟨u, heq⟩
  · simp [heq]
  · rw [heq]
    exact Handover.acts_step sink t.handover u

variable {source signals policy sink t} {state : σ}

/-- Neither thread can make the slots lose a sighting without an eviction. -/
theorem deliversUnevicted_step (hv : t.handover.ring.Valid) (hi : t.handover.DeliversUnevicted)
    (turn : Turn) :
    (t.step source signals policy sink turn).handover.DeliversUnevicted := by
  rcases t.handover_step source signals policy sink turn with heq | ⟨u, heq⟩
  · rw [heq]
    exact hi
  · rw [heq]
    exact Handover.deliversUnevicted_step sink u hv hi

/-- Only a request moves a producer on in its source. -/
theorem follows_step (h : t.producer.Follows source state signals) (turn : Turn) :
    (t.step source signals policy sink turn).producer.Follows source state signals := by
  cases turn with
  -- Between two questions the producer asks nothing and its source stays where it is.
  | produce =>
    simp only [step, produce]
    cases hstage : t.producer.stage with
    | asking => exact h.ask hstage policy
    | returned result => exact h
    | storing rest statsDue =>
      have hunder : t.producer.stage.hasReturned = false := by
        rw [hstage]
        rfl
      cases rest with
      | nil => exact h.of_between hunder rfl rfl rfl
      | cons s rest => exact h.of_between hunder rfl rfl rfl
  | close =>
    simp only [step]
    split <;> exact h
  | work => exact h

variable (source signals policy sink) in
/-- A producer that has returned rests. -/
theorem produce_of_returned {result : Except CaptureError Summary}
    (h : t.producer.stage = .returned result) : t.produce source signals policy sink = t := by
  simp only [produce, h]

/-- What the producer stores is stored into open slots, and what the worker does closes none. -/
theorem closed_step {turn : Turn} (hturn : turn ≠ .close) :
    (t.step source signals policy sink turn).handover.ring.closed = t.handover.ring.closed := by
  cases turn with
  | produce =>
    simp only [step, produce]
    cases t.producer.stage with
    | asking => rfl
    | returned result => rfl
    | storing rest statsDue =>
      cases rest with
      | nil => rfl
      | cons s rest => exact Handover.closed_step sink t.handover LanWatch.Turn.noConfusion
  | close => exact absurd rfl hturn
  | work => exact Handover.closed_step sink t.handover LanWatch.Turn.noConfusion

end Tandem

/-! ### The order -/

/-- The main thread closes the slots long after it has started the worker. -/
theorem Overseer.hasWorker_of_hasClosed {o : Overseer} (h : o.hasClosed = true) :
    o.hasWorker = true := by
  cases o <;> first | rfl | cases h

/-- The main thread starts the worker before the producer. -/
theorem Overseer.hasWorker_of_hasProducer {o : Overseer} (h : o.hasProducer = true) :
    o.hasWorker = true := by
  cases o <;> first | rfl | cases h

namespace Daemon

variable {σ τ : Type} {source : Source σ} {signals : Signals} {policy : VlanPolicy} {sink : Sink τ}
  {state : σ} {d : Daemon σ τ}

/-- What holds between the steps of three threads. -/
structure Orderly (source : Source σ) (state : σ) (signals : Signals) (d : Daemon σ τ) : Prop where
  balanced : d.tandem.Balanced
  delivers : d.tandem.handover.DeliversUnevicted
  follows : d.tandem.producer.Follows source state signals
  unstarted : d.overseer.hasWorker = false → d.tandem.handover.acts = [] ∧ d.farewell = none
  /-- Everything happens between the opening of the sink and the leave that the worker takes. -/
  history_eq : d.history = (if d.overseer.hasOpened then [.opened] else []) ++
    d.tandem.handover.acts.map .act ++ (if d.farewell.isSome then [.stopped] else [])
  closed_eq : d.tandem.handover.ring.closed = d.overseer.hasClosed
  result_eq : ∀ result, d.overseer.result? = some result →
    d.tandem.producer.stage = .returned result
  stopped : d.farewell.isSome = true → d.tandem.handover.worker.stage = .finished
  ended : ∀ result, d.overseer = .ended result → d.farewell.isSome = true

theorem orderly_start (source : Source σ) (state : σ) (signals : Signals) (kept : τ)
    {capacity : Nat} (hcap : 2 ≤ capacity) (overflow : Overflow) :
    (start source state (.empty capacity overflow) kept).Orderly source state signals where
  balanced := Tandem.balanced_start source state kept hcap overflow
  delivers := Handover.deliversUnevicted_start
    (congrArg Queue.items (Ring.toQueue_empty capacity overflow)) kept
  follows := Producer.follows_start
  unstarted _ := ⟨rfl, rfl⟩
  history_eq := rfl
  closed_eq := rfl
  result_eq _ hresult := by cases hresult
  stopped hstopped := by cases hstopped
  ended _ hended := by cases hended

/-- The worker returns only once the main thread has closed the slots. -/
theorem Orderly.hasClosed (h : d.Orderly source state signals)
    (hfinished : d.tandem.handover.worker.stage = .finished) : d.overseer.hasClosed = true := by
  rw [← h.closed_eq]
  exact (h.balanced.finished hfinished).1

/-- The main thread goes on, and nothing else does. -/
theorem Orderly.goOn (h : d.Orderly source state signals) {overseer : Overseer} {log : Log}
    (hopened : overseer.hasOpened = d.overseer.hasOpened)
    (hworker : overseer.hasWorker = false → d.overseer.hasWorker = false)
    (hclosed : overseer.hasClosed = d.overseer.hasClosed)
    (hresult : ∀ result, overseer.result? = some result →
      d.tandem.producer.stage = .returned result)
    (hended : ∀ result, overseer = .ended result → d.farewell.isSome = true) :
    ({ d with overseer, log } : Daemon σ τ).Orderly source state signals where
  balanced := h.balanced
  delivers := h.delivers
  follows := h.follows
  unstarted hnone := h.unstarted (hworker hnone)
  -- Whether the sink was opened did not change, so the history is still accounted for.
  history_eq := by
    show d.history = (if overseer.hasOpened then [.opened] else []) ++ _ ++ _
    rw [hopened]
    exact h.history_eq
  closed_eq := h.closed_eq.trans hclosed.symm
  result_eq := hresult
  stopped := h.stopped
  ended := hended

/-- Nothing was done anew. -/
theorem moveOn_self (d : Daemon σ τ) : d.moveOn d.tandem = d := by
  unfold Daemon.moveOn
  simp

/-- A step of the two threads, or the close, while the worker has not taken its leave. -/
theorem Orderly.moveOn (h : d.Orderly source state signals) (hleft : d.farewell = none)
    {t : Tandem σ τ} {overseer : Overseer}
    (hopened : overseer.hasOpened = d.overseer.hasOpened) (hstarted : overseer.hasWorker = true)
    (hbalanced : t.Balanced) (hdelivers : t.handover.DeliversUnevicted)
    (hfollows : t.producer.Follows source state signals)
    (hacts : d.tandem.handover.acts <+: t.handover.acts)
    (hclosed : t.handover.ring.closed = overseer.hasClosed)
    (hresult : ∀ result, overseer.result? = some result → t.producer.stage = .returned result)
    (hended : ∀ result, overseer ≠ .ended result) :
    ({ d.moveOn t with overseer } : Daemon σ τ).Orderly source state signals where
  balanced := hbalanced
  delivers := hdelivers
  follows := hfollows
  unstarted hnone := by
    rw [hstarted] at hnone
    cases hnone
  history_eq := by
    obtain ⟨new, hnew⟩ := hacts
    -- The new acts go to the end of the history, where the farewell is still missing.
    have hsame := h.history_eq
    rw [hleft] at hsame
    show d.history ++ (t.handover.acts.drop d.tandem.handover.acts.length).map .act =
      (if overseer.hasOpened then [.opened] else []) ++ t.handover.acts.map .act ++
        (if d.farewell.isSome then [.stopped] else [])
    rw [hsame, hopened, hleft, ← hnew, List.drop_left, List.map_append]
    simp
  closed_eq := hclosed
  result_eq := hresult
  stopped hstopped := by
    have hstopped : d.farewell.isSome = true := hstopped
    rw [hleft] at hstopped
    cases hstopped
  ended result hover := absurd hover (hended result)

/-- A step of the two threads that closes nothing. Once the worker has taken its leave there is
    none. -/
theorem Orderly.advance (h : d.Orderly source state signals) (hworker : d.overseer.hasWorker = true)
    {turn : Tandem.Turn} (hturn : turn ≠ .close) :
    (d.moveOn (d.tandem.step source signals policy sink turn)).Orderly source state signals := by
  cases hleft : d.farewell with
  | none =>
    refine h.moveOn hleft rfl hworker (h.balanced.step source signals policy sink turn)
      (Tandem.deliversUnevicted_step h.balanced.valid h.delivers turn)
      (Tandem.follows_step h.follows turn) (d.tandem.acts_step source signals policy sink turn)
      ((Tandem.closed_step hturn).trans h.closed_eq) ?_ ?_
    · intro result hresult
      have hstage := h.result_eq result hresult
      cases turn with
      | produce =>
        show (d.tandem.produce source signals policy sink).producer.stage = _
        rw [Tandem.produce_of_returned source signals policy sink hstage]
        exact hstage
      | close => exact absurd rfl hturn
      | work => exact hstage
    · intro result hover
      have hleft' := h.ended result hover
      rw [hleft] at hleft'
      cases hleft'
  | some farewell =>
    -- Both threads have returned, so their steps change nothing.
    have hsome : d.farewell.isSome = true := by
      rw [hleft]
      rfl
    have hfinished := h.stopped hsome
    have hquiet : d.tandem.step source signals policy sink turn = d.tandem := by
      cases turn with
      | produce =>
        obtain ⟨result, hstage, -⟩ := h.balanced.accounts hfinished
        exact Tandem.produce_of_returned source signals policy sink hstage
      | close => exact absurd rfl hturn
      | work =>
        simp only [Tandem.step, Handover.step, Worker.step, hfinished]
    rw [hquiet, moveOn_self]
    exact h

/-- Nothing happened before the sink is opened. -/
theorem Orderly.openSink (h : d.Orderly source state signals) (hopening : d.overseer = .opening)
    (source' : Source σ) (sink : Sink τ) :
    (d.openSink source' sink).Orderly source state signals where
  balanced := ⟨h.balanced.valid, h.balanced.tallied,
    ⟨h.balanced.balanced.overruns_eq, h.balanced.balanced.stored_eq, h.balanced.balanced.busy⟩,
    h.balanced.closed, h.balanced.finished⟩
  delivers hnone := by
    -- Opening the sink changes neither the slots nor what the worker has done.
    have hin := h.delivers hnone
    exact ⟨hin.bounded, hin.handled_eq, hin.releases_le, hin.pending, hin.told, hin.held,
      hin.unreleased⟩
  follows := h.follows
  unstarted _ := h.unstarted (by rw [hopening]; rfl)
  history_eq := by
    obtain ⟨hacts, hleft⟩ := h.unstarted (by rw [hopening]; rfl)
    -- Nothing was done before, so the history is the opening alone.
    have hnothing := h.history_eq
    rw [hopening, hacts, hleft] at hnothing
    show d.history ++ [.opened] =
      [.opened] ++ d.tandem.handover.acts.map .act ++ (if d.farewell.isSome then [.stopped] else [])
    rw [hnothing, hacts, hleft]
    rfl
  closed_eq := by
    have hclosed := h.closed_eq
    rw [hopening] at hclosed
    exact hclosed
  result_eq _ hresult := by cases hresult
  stopped := h.stopped
  ended _ hended := by cases hended

/-- The worker has returned, and takes leave of the sink. -/
theorem Orderly.leave (h : d.Orderly source state signals)
    (hfinished : d.tandem.handover.worker.stage = .finished) (hleft : d.farewell = none)
    (farewell : τ × Log) :
    ({ d with farewell := some farewell, history := d.history ++ [.stopped] } :
      Daemon σ τ).Orderly source state signals where
  balanced := h.balanced
  delivers := h.delivers
  follows := h.follows
  unstarted hnone := by
    -- The main thread closes the slots only after it has started the worker.
    rw [Overseer.hasWorker_of_hasClosed (h.hasClosed hfinished)] at hnone
    cases hnone
  history_eq := by
    have hsame := h.history_eq
    rw [hleft] at hsame
    show d.history ++ [.stopped] = _ ++ [.stopped]
    rw [hsame]
    simp
  closed_eq := h.closed_eq
  result_eq := h.result_eq
  stopped _ := hfinished
  ended _ _ := rfl

/-! ### Every step -/

/-- The main thread, one case for each place where it can stand. -/
theorem Orderly.oversee (h : d.Orderly source state signals) (source' : Source σ) (sink : Sink τ) :
    (d.oversee source' sink).Orderly source state signals := by
  unfold Daemon.oversee
  cases hplace : d.overseer with
  | opening => exact h.openSink hplace source' sink
  | startingWorker =>
    exact h.goOn (by rw [hplace]; rfl) nofun (by rw [hplace]; rfl) nofun nofun
  | startingProducer =>
    exact h.goOn (by rw [hplace]; rfl) nofun (by rw [hplace]; rfl) nofun nofun
  | awaitingProducer =>
    cases hstage : d.tandem.producer.stage with
    | asking => exact h
    | storing rest statsDue => exact h
    | returned result =>
      refine h.goOn (by rw [hplace]; rfl) nofun (by rw [hplace]; rfl) ?_ nofun
      rintro result' hresult
      cases hresult
      exact hstage
  | closing result =>
    -- The worker has not left, for the slots are still open.
    have hopen : d.overseer.hasClosed = false := by
      rw [hplace]
      rfl
    have hleft : d.farewell = none := by
      rw [Option.eq_none_iff_forall_ne_some]
      intro farewell hsome
      have hfinished := h.stopped (by rw [hsome]; rfl)
      rw [h.hasClosed hfinished] at hopen
      cases hopen
    have hstage := h.result_eq result (by rw [hplace]; rfl)
    have hreturned : d.tandem.producer.stage.hasReturned = true := by
      rw [hstage]
      rfl
    refine h.moveOn hleft (by rw [hplace]; rfl) rfl (h.balanced.close hreturned)
      (Handover.deliversUnevicted_step sink .close h.balanced.valid h.delivers) h.follows
      (Handover.acts_step sink d.tandem.handover .close) rfl ?_ nofun
    rintro result' hresult
    cases hresult
    exact hstage
  | awaitingWorker result =>
    by_cases hleft : d.farewell.isSome = true
    · have hstage := h.result_eq result (by rw [hplace]; rfl)
      simp only [if_pos hleft]
      refine h.goOn (by rw [hplace]; rfl) nofun (by rw [hplace]; rfl) ?_ fun _ _ => hleft
      rintro result' hresult
      cases hresult
      exact hstage
    · simp only [if_neg hleft]
      exact h
  | ended result => exact h

/-- The worker goes on, or takes its leave. -/
theorem Orderly.work (h : d.Orderly source state signals) (hworker : d.overseer.hasWorker = true)
    (policy : VlanPolicy) (sink : Sink τ) :
    (d.work source signals policy sink).Orderly source state signals := by
  unfold Daemon.work
  split
  case h_1 hfinished hleft => exact h.leave hfinished hleft _
  case h_2 => exact h.advance hworker Tandem.Turn.noConfusion

variable (policy sink) in
theorem Orderly.step (h : d.Orderly source state signals) (turn : Turn) :
    (d.step source signals policy sink turn).Orderly source state signals := by
  -- One case for each thread. A thread that was not started yet rests.
  cases turn with
  | oversee => exact h.oversee source sink
  | produce =>
    simp only [Daemon.step]
    split
    case isTrue hstarted =>
      exact h.advance (Overseer.hasWorker_of_hasProducer hstarted) Tandem.Turn.noConfusion
    case isFalse => exact h
  | work =>
    simp only [Daemon.step]
    split
    case isTrue hstarted => exact h.work hstarted policy sink
    case isFalse => exact h

variable (policy sink) in
theorem Orderly.run (h : d.Orderly source state signals) (turns : List Turn) :
    (d.run source signals policy sink turns).Orderly source state signals := by
  -- By induction on the turns.
  induction turns generalizing d with
  | nil => exact h
  | cons turn turns ih => exact ih (h.step policy sink turn)

end Daemon

end LanWatch
