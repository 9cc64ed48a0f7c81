import LanWatch.Proofs.Handover.Balance
import LanWatch.Session.Tandem

namespace LanWatch

/-!
# The accounts of a session balance

Three parties count while a session runs: the producer counts what became of each record, the slots
count overruns, and the worker counts the slots that it released. Once the worker has returned, the
three agree: every record was handled, or suppressed, or dropped, or it is made up for by an
eviction.

* `Producer.Tallied` — the counts of a producer are those of the outcomes that it got;
* `Tandem.Balanced`, `Tandem.Balanced.step` — that, with the balance of the slots and the order in
  which the two threads end;
* `Tandem.accounts_balance` — what follows for every run.
-/

/-! ### The producer's counts -/

/-- A frame is no record. -/
theorem Summary.countFrame_keeps (s : Summary) (error : Option DecodeError) :
    (s.countFrame error).sightings = s.sightings ∧ (s.countFrame error).duplicates = s.duplicates ∧
      (s.countFrame error).dropped = s.dropped ∧ (s.countFrame error).evicted = s.evicted := by
  cases error with
  | none => exact ⟨rfl, rfl, rfl, rfl⟩
  | some e => cases e <;> exact ⟨rfl, rfl, rfl, rfl⟩

namespace Producer

variable {σ : Type} {p : Producer σ} {outcomes : List PushOutcome}

/-- A producer has counted what became of its records, and this is what it returns. -/
structure Tallied (p : Producer σ) (outcomes : List PushOutcome) : Prop where
  sightings_eq : p.summary.sightings = outcomes.length
  duplicates_eq : p.summary.duplicates = outcomes.count .duplicate
  dropped_eq : p.summary.dropped = outcomes.count .dropped
  evicted_eq : p.summary.evicted = outcomes.count .evicted
  returned_eq : ∀ summary, p.stage = .returned (.ok summary) → summary = p.summary

theorem tallied_start (source : Source σ) (state : σ) : (start source state).Tallied [] where
  sightings_eq := rfl
  duplicates_eq := rfl
  dropped_eq := rfl
  evicted_eq := rfl
  returned_eq _ h := by cases h

/-- A step that counts nothing. -/
theorem Tallied.of_uncounted (h : p.Tallied outcomes) {p' : Producer σ}
    (hsummary : p'.summary = p.summary)
    (hreturned : ∀ summary, p'.stage = .returned (.ok summary) → summary = p'.summary) :
    p'.Tallied outcomes := by
  constructor
  · rw [hsummary]
    exact h.sightings_eq
  · rw [hsummary]
    exact h.duplicates_eq
  · rw [hsummary]
    exact h.dropped_eq
  · rw [hsummary]
    exact h.evicted_eq
  · exact hreturned

theorem Tallied.finish (h : p.Tallied outcomes) (name : String) :
    (p.finish name).Tallied outcomes :=
  h.of_uncounted rfl fun summary hsummary => by
    cases hsummary
    rfl

theorem Tallied.fail (h : p.Tallied outcomes) (e : CaptureError) : (p.fail e).Tallied outcomes :=
  h.of_uncounted rfl fun _ hsummary => by cases hsummary

/-- A frame is counted by what dissecting it gave, and its records are not stored yet. -/
theorem Tallied.takeFrame (h : p.Tallied outcomes) (policy : VlanPolicy) (f : Frame)
    (statsDue : Bool) : (p.takeFrame policy f statsDue).Tallied outcomes := by
  obtain ⟨hsightings, hduplicates, hdropped, hevicted⟩ :=
    p.summary.countFrame_keeps (dissect policy f.seen f.data).error
  exact ⟨hsightings.trans h.sightings_eq, hduplicates.trans h.duplicates_eq,
    hdropped.trans h.dropped_eq, hevicted.trans h.evicted_eq, fun _ hsummary => by cases hsummary⟩

/-- Whatever is delivered, no outcome comes with it. -/
theorem Tallied.deal (h : p.Tallied outcomes) (name : String) (policy : VlanPolicy) (d : Delivery) :
    (p.deal name policy d).Tallied outcomes := by
  unfold Producer.deal
  cases d.answer with
  | frame f => exact h.takeFrame policy f d.statsDue
  | idle => exact h.of_uncounted rfl fun _ hsummary => by cases hsummary
  | closed =>
    have hsaid : ({ p with log := p.log ++ [closedEvent name] } : Producer σ).Tallied outcomes :=
      h.of_uncounted rfl h.returned_eq
    exact hsaid.finish name
  | failed e => exact h.fail e
  | died => exact h.fail .workerDied

/-- A request counts no record. -/
theorem Tallied.ask (h : p.Tallied outcomes) (source : Source σ) (signals : Signals)
    (policy : VlanPolicy) : (p.ask source signals policy).Tallied outcomes := by
  unfold Producer.ask
  split
  case isTrue =>
    have hread : ({ p with state := (source.read p.state).2, reads := p.reads + 1 } :
        Producer σ).Tallied outcomes := h.of_uncounted rfl h.returned_eq
    exact hread.deal source.name policy _
  case isFalse => exact h.finish source.name

/-- An outcome is counted as what it is. -/
theorem Tallied.countStored (h : p.Tallied outcomes) (rest : List Sighting) (statsDue : Bool)
    (outcome : PushOutcome) :
    (p.countStored rest statsDue outcome).Tallied (outcomes ++ [outcome]) := by
  have hcounted : (p.countStored rest statsDue outcome).summary =
      p.summary.countPush outcome := rfl
  -- Each counter grows by one exactly when the outcome is its own.
  constructor
  · rw [hcounted, List.length_append, ← h.sightings_eq]
    cases outcome <;> rfl
  · rw [hcounted, List.count_append, ← h.duplicates_eq]
    cases outcome <;> rfl
  · rw [hcounted, List.count_append, ← h.dropped_eq]
    cases outcome <;> rfl
  · rw [hcounted, List.count_append, ← h.evicted_eq]
    cases outcome <;> rfl
  · intro _ hsummary
    cases hsummary

end Producer

/-! ### Both threads -/

/-- What the worker does is no outcome of a store. -/
theorem Handover.outcomesIn_work {τ : Type} (sink : Sink τ) (h : Handover τ) :
    outcomesIn (h.step sink .work).acts = outcomesIn h.acts := by
  have hunseen : ∀ a, outcomesIn [a] = [] → outcomesIn (h.acts ++ [a]) = outcomesIn h.acts := by
    intro a ha
    rw [outcomesIn_concat, ha, List.append_nil]
  simp only [step, Worker.step]
  cases h.worker.stage with
  | looking => cases h.ring.await <;> first | rfl | exact hunseen _ rfl
  | holding s => exact hunseen _ rfl
  | releasing => exact hunseen _ rfl
  | finished => rfl

namespace Tandem

variable {σ τ : Type} {source : Source σ} {signals : Signals} {policy : VlanPolicy} {sink : Sink τ}
  {t : Tandem σ τ}

/-- The counts of both threads and of the slots fit each other. The slots are closed after the
    producer has returned, and the worker returns after that. -/
structure Balanced (t : Tandem σ τ) : Prop where
  valid : t.handover.ring.Valid
  tallied : t.producer.Tallied (outcomesIn t.handover.acts)
  balanced : t.handover.Balanced
  closed : t.handover.ring.closed = true → t.producer.stage.hasReturned = true
  finished : t.handover.worker.stage = .finished →
    t.handover.ring.closed = true ∧ t.handover.ring.toList = []

theorem balanced_start (source : Source σ) (state : σ) (kept : τ) {capacity : Nat}
    (hcap : 2 ≤ capacity) (overflow : Overflow) :
    (start source state (.empty capacity overflow) kept).Balanced where
  valid := Ring.valid_empty hcap overflow
  tallied := Producer.tallied_start source state
  balanced := Handover.balanced_start rfl
    (congrArg Queue.items (Ring.toQueue_empty capacity overflow)) kept
  closed hclosed := by cases hclosed
  finished hfinished := by cases hfinished

/-- As long as the producer has not returned, the slots are open and the worker is at work. -/
theorem Balanced.not_closed (h : t.Balanced) (hunder : t.producer.stage.hasReturned = false) :
    t.handover.ring.closed = false ∧ t.handover.worker.stage ≠ .finished := by
  have hopen : t.handover.ring.closed = false := by
    rw [Bool.eq_false_iff]
    intro hclosed
    rw [h.closed hclosed] at hunder
    cases hunder
  refine ⟨hopen, fun hfinished => ?_⟩
  rw [(h.finished hfinished).1] at hopen
  cases hopen

/-- The producer moves on and leaves the slots alone. -/
theorem Balanced.producer (h : t.Balanced) (hunder : t.producer.stage.hasReturned = false)
    {p : Producer σ} (hp : p.Tallied (outcomesIn t.handover.acts)) :
    ({ t with producer := p } : Tandem σ τ).Balanced where
  valid := h.valid
  tallied := hp
  balanced := h.balanced
  closed hclosed := absurd hclosed (Bool.eq_false_iff.1 (h.not_closed hunder).1)
  finished := h.finished

/-- The producer stores a record, which it can do as long as it has not returned. -/
theorem Balanced.push (h : t.Balanced) (hunder : t.producer.stage.hasReturned = false)
    (s : Sighting) (rest : List Sighting) (statsDue : Bool) :
    ({ producer := t.producer.countStored rest statsDue (t.handover.ring.push true s).2
       handover := t.handover.step sink (.push true s) } : Tandem σ τ).Balanced where
  valid := Handover.valid_step sink h.valid _
  tallied := by
    show Producer.Tallied _
      (outcomesIn (t.handover.acts ++ [.pushed s (t.handover.ring.push true s).2]))
    rw [outcomesIn_concat]
    exact h.tallied.countStored rest statsDue _
  balanced := Handover.balanced_step sink t.handover (.push true s) h.valid h.balanced
  closed hclosed := by
    have hkept := Handover.closed_step sink t.handover (t := .push true s) LanWatch.Turn.noConfusion
    -- The slots were open and a push does not close them.
    rw [(h.not_closed hunder).1] at hkept
    exact absurd hclosed (Bool.eq_false_iff.1 hkept)
  finished hfinished := absurd hfinished (h.not_closed hunder).2

/-- The slots are closed once the producer has returned. -/
theorem Balanced.close (h : t.Balanced) (hended : t.producer.stage.hasReturned = true) :
    ({ t with handover := t.handover.step sink .close } : Tandem σ τ).Balanced where
  valid := Handover.valid_step sink h.valid _
  tallied := by
    show Producer.Tallied _ (outcomesIn (t.handover.acts ++ [.closed]))
    rw [outcomesIn_concat]
    show t.producer.Tallied (outcomesIn t.handover.acts ++ [])
    rw [List.append_nil]
    exact h.tallied
  balanced := Handover.balanced_step sink t.handover .close h.valid h.balanced
  closed _ := hended
  finished hfinished := ⟨rfl, (h.finished hfinished).2⟩

/-- The worker stores nothing, and returns only if the slots are closed and empty. -/
theorem Balanced.work (h : t.Balanced) :
    ({ t with handover := t.handover.step sink .work } : Tandem σ τ).Balanced := by
  have hclosed := Handover.closed_step sink t.handover (t := .work) LanWatch.Turn.noConfusion
  -- The worker does not touch the producer, and it finishes only on slots that are closed and
  -- empty.
  refine ⟨Handover.valid_step sink h.valid _, ?tallied,
    Handover.balanced_step sink t.handover .work h.valid h.balanced, ?closed, ?finished⟩
  case closed =>
    intro hnow
    exact h.closed (hclosed.symm.trans hnow)
  case tallied =>
    show t.producer.Tallied (outcomesIn (t.handover.step sink .work).acts)
    rw [Handover.outcomesIn_work]
    exact h.tallied
  case finished =>
    have heffect := Handover.step_effect sink h.valid .work
    generalize t.handover.step sink .work = h' at heffect
    intro hfinished
    cases heffect with
    | rests => exact h.finished hfinished
    | returns hstage hlist hclosed => exact ⟨hclosed, hlist⟩
    | _ => cases hfinished

variable (source signals policy sink) in
theorem Balanced.step (h : t.Balanced) (turn : Turn) :
    (t.step source signals policy sink turn).Balanced := by
  -- One case for each thread, and the close.
  cases turn with
  | produce =>
    simp only [Tandem.step, produce]
    cases hstage : t.producer.stage with
    | asking => exact h.producer (by rw [hstage]; rfl) (h.tallied.ask source signals policy)
    | storing rest statsDue =>
      cases rest with
      | nil =>
        refine h.producer (by rw [hstage]; rfl) (h.tallied.of_uncounted rfl ?_)
        intro _ hsummary
        cases hsummary
      | cons s rest => exact h.push (by rw [hstage]; rfl) s rest statsDue
    | returned result => exact h
  | close =>
    simp only [Tandem.step]
    split
    case isTrue hended => exact h.close hended
    case isFalse => exact h
  | work => exact h.work

variable (source signals policy sink) in
theorem Balanced.run (h : t.Balanced) (turns : List Turn) :
    (t.run source signals policy sink turns).Balanced := by
  -- By induction on the turns.
  induction turns generalizing t with
  | nil => exact h
  | cons turn turns ih => exact ih (h.step source signals policy sink turn)

/-- Once the worker has returned, nothing is pending, so every store into a free slot was handled. -/
theorem Balanced.accounts (h : t.Balanced) (hfinished : t.handover.worker.stage = .finished) :
    ∃ result, t.producer.stage = .returned result ∧
      ∀ summary, result = .ok summary →
        summary.sightings = t.handover.worker.handled + summary.duplicates + summary.dropped +
          summary.evicted ∧
        t.handover.ring.overruns = summary.dropped + summary.evicted := by
  obtain ⟨hclosed, hnil⟩ := h.finished hfinished
  have hended := h.closed hclosed
  cases hstage : t.producer.stage with
  -- The slots are closed, so the producer has returned.
  | asking | storing rest statsDue =>
    rw [hstage] at hended
    cases hended
  | returned result =>
    refine ⟨result, rfl, ?_⟩
    rintro summary rfl
    have hreturned := h.tallied.returned_eq summary hstage
    -- Stored are those pending, of which there are none, and those that the worker has handled.
    have hstored := h.balanced.stored_eq
    rw [hnil, List.length_nil, Nat.zero_add] at hstored
    rw [hreturned, h.tallied.sightings_eq, h.tallied.duplicates_eq, h.tallied.dropped_eq,
      h.tallied.evicted_eq, length_eq_counts, hstored]
    exact ⟨rfl, h.balanced.overruns_eq⟩

/-! ### What follows for every run -/

/-- Whatever the source hands out, whenever the flag is cleared, and in whatever order the two threads
    take their steps: a worker that returns does so after the producer, and leaves no sighting behind.
    Unless the source broke down, the records that the producer counted are then those that the worker
    handled, those that were suppressed, those that were dropped, and one for each eviction; and the
    overruns that the slots counted are the drops and the evictions. -/
theorem accounts_balance (source : Source σ) (signals : Signals) (policy : VlanPolicy)
    (sink : Sink τ) (state : σ) (kept : τ) {capacity : Nat} (hcap : 2 ≤ capacity)
    (overflow : Overflow) :
    (∀ memory, Ring.Fits capacity memory →
      Ring.create capacity overflow memory = .ok (.empty capacity overflow)) ∧
      ∀ (turns : List Turn) (t : Tandem σ τ),
        t = (start source state (.empty capacity overflow) kept).run source signals policy sink
          turns →
        t.handover.worker.stage = .finished →
          t.handover.ring.toList = [] ∧
          ∃ result, t.producer.stage = .returned result ∧
            ∀ summary, result = .ok summary →
              summary.sightings = t.handover.worker.handled + summary.duplicates +
                summary.dropped + summary.evicted ∧
              t.handover.ring.overruns = summary.dropped + summary.evicted := by
  refine ⟨fun _ => Ring.create_eq_empty hcap overflow, ?_⟩
  rintro turns t rfl hfinished
  have h := (balanced_start source state kept hcap overflow).run source signals policy sink turns
  exact ⟨(h.finished hfinished).2, h.accounts hfinished⟩

deriving instance DecidableEq for Producer.Stage

/-- Two slots and two frames. The record of the second frame evicts that of the first while the worker
    reports it, so the worker releases the slot of the second. -/
theorem accounts_balance_with_two_slots :
    let request (n : UInt8) : Frame := ⟨⟨1, 0⟩, List.replicate 6 0xff ++ [2, 0, 0, 0, 0, n, 8, 6] ++
      [0, 1, 8, 0, 6, 4, 0, 1, 2, 0, 0, 0, 0, n, 10, 0, 0, n, 0, 0, 0, 0, 0, 0, 10, 0, 0, 9]⟩
    let replay : Replay := { name := "replay0", frames := [request 1, request 2] }
    let signals : Signals := { running := fun _ => true }
    let turns : List Turn := [.produce, .produce, .work, .produce, .produce, .produce, .work, .work,
      .produce, .produce, .close, .work]
    let summary : Summary := { frames := 2, sightings := 2, evicted := 1 }
    ∃ r, Ring.create 2 .evictOldest = .ok r ∧
      ∃ t, t = (start replay.source replay r []).run replay.source signals {} (Sink.collect none)
          turns ∧
        t.handover.worker.stage = .finished ∧ t.producer.stage = .returned (.ok summary) ∧
        t.handover.ring.toList = [] ∧
        summary.sightings = t.handover.worker.handled + summary.duplicates + summary.dropped +
          summary.evicted ∧
        t.handover.ring.overruns = summary.dropped + summary.evicted := by
  intro request replay signals turns summary
  obtain ⟨hcreate, hall⟩ := accounts_balance replay.source signals {} (Sink.collect none) replay []
    (show 2 ≤ 2 by decide) .evictOldest
  have hstage : ((start replay.source replay (.empty 2 .evictOldest) []).run replay.source signals {}
      (Sink.collect none) turns).producer.stage = .returned (.ok summary) := by decide +kernel
  refine ⟨_, hcreate _ (by decide), _, rfl, by decide +kernel, hstage, ?_⟩
  obtain ⟨hnil, result, hended, hcounts⟩ := hall turns _ rfl (by decide +kernel)
  rw [hstage] at hended
  cases hended
  exact ⟨hnil, hcounts summary rfl⟩

end Tandem

end LanWatch
