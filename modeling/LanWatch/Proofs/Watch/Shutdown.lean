import LanWatch.Proofs.Watch.Exit
import LanWatch.Proofs.Watch.Hearing

namespace LanWatch

/-!
# Nothing is lost when the program stops

However the capture ends, the main thread goes through the close and waits for the worker before it
answers. So by the time it answers the slots are empty, and the sink has been told of the start, of
every sighting that was stored, and of the end, in this order. What the sink keeps, and what it
leaves at the end, is what came of just these calls.

* `Daemon.Orderly.history_cases` — the three forms of a history, and what the sink keeps in each;
* `Daemon.Orderly.answered` — what the program answers, and what it leaves then;
* `Daemon.exit_loses_nothing` — what follows for every order of steps, and that there is an answer.
-/

namespace Daemon

variable {σ τ : Type} {source : Source σ} {signals : Signals} {sink : Sink τ} {state : σ} {kept : τ}
  {d : Daemon σ τ}

/-- Nothing happened yet, or the sink was opened first and has heard the reports, and it may have
    been told that nothing follows. -/
theorem Orderly.history_cases (h : d.Orderly source state signals)
    (ha : d.Attended source sink kept) :
    let acts := d.tandem.handover.acts
    let worker := d.tandem.handover.worker
    d.history = [] ∧ acts = [] ∧ worker.state = kept ∧ d.farewell = none ∨
      d.history = .opened :: acts.map .act ∧
        sink.Hears (sink.start source.name kept).1 acts worker.state ∧ d.farewell = none ∨
      d.history = .opened :: acts.map .act ++ [.stopped] ∧ worker.stage = .finished ∧
        sink.Hears (sink.start source.name kept).1 acts worker.state ∧
        d.farewell = some (sink.stop worker.state) := by
  have hhistory := h.history_eq
  by_cases hopened : d.overseer.hasOpened = true
  · rw [if_pos hopened] at hhistory
    have hheard := ha.heard hopened
    right
    cases hleft : d.farewell with
    | none =>
      rw [hleft] at hhistory
      exact .inl ⟨by simpa using hhistory, hheard, rfl⟩
    | some farewell =>
      rw [hleft] at hhistory
      obtain ⟨hfinished, rfl⟩ := ha.left farewell hleft
      exact .inr ⟨hhistory, hfinished, hheard, rfl⟩
  · -- A main thread that has not opened the sink has not started the worker.
    have hworker : d.overseer.hasWorker = false :=
      Bool.eq_false_iff.2 fun hyes => hopened (Overseer.hasOpened_of_hasWorker hyes)
    obtain ⟨hacts, hleft⟩ := h.unstarted hworker
    left
    rw [hhistory, if_neg hopened, hacts, hleft]
    exact ⟨rfl, rfl, ha.unopened (Bool.eq_false_iff.2 hopened), rfl⟩

/-- The answer tells whether the capture failed. -/
theorem ended_of_answer {answer : Except Failure Unit} (h : d.answer? = some answer) :
    ∃ result, d.overseer = .ended result ∧
      ((∃ failure, answer = .error failure) ↔ ∃ e, result = .error e) := by
  unfold answer? at h
  split at h
  case h_1 summary hended =>
    cases h
    exact ⟨_, hended, by simp⟩
  case h_2 e hended =>
    cases h
    exact ⟨_, hended, by simp⟩
  case h_3 => cases h

/-- A main thread that has ended has an answer. -/
theorem answer_of_ended {result : Except CaptureError Summary} (h : d.overseer = .ended result) :
    d.answer? ≠ none := by
  unfold answer?
  rw [h]
  cases result <;> simp

/-- When the main thread answers, the worker has taken its leave, so nothing is pending. -/
theorem Orderly.answered (h : d.Orderly source state signals) {answer : Except Failure Unit}
    (hanswer : d.answer? = some answer) :
    d.history = .opened :: d.tandem.handover.acts.map .act ++ [.stopped] ∧
      d.farewell.isSome = true ∧
      d.tandem.handover.ring.toList = [] ∧
      (.evicted ∉ outcomesIn d.tandem.handover.acts →
        reportedIn d.tandem.handover.acts = storedIn d.tandem.handover.acts) ∧
      ∃ result, d.tandem.producer.stage = .returned result ∧
        ((∃ failure, answer = .error failure) ↔ ∃ e, result = .error e) := by
  -- The main thread answers only after the worker has said its farewell.
  obtain ⟨result, hended, herror⟩ := ended_of_answer hanswer
  have hleft := h.ended result hended
  have hfinished := h.stopped hleft
  have hnil := (h.balanced.finished hfinished).2
  have hhistory := h.history_eq
  rw [hended, if_pos hleft] at hhistory
  exact ⟨hhistory, hleft, hnil, fun hnone => h.delivers.reported_eq hnone hfinished hnil, result,
    h.result_eq result (by rw [hended]; rfl), herror⟩

/-! ### What follows for every run -/

/-- Whatever the source hands out, whenever the flag is cleared, and in whatever order the three
    threads take their steps, the slots are closed only after the producer has returned. The sink is
    opened before anything else happens, and told that nothing follows at most once, by a worker
    that has returned. What it keeps in between is what it made of the opening and of the reported
    sightings, one after another; it gave the answers that the reports tell; and what it leaves at
    the end is what it made of the end in that state. When the program answers, the sink has been
    told of the end, nothing is pending, and unless a sighting was evicted every one that was stored
    was reported, in order and each once. The answer is an error exactly if the producer has
    returned one, which it does exactly if an error of the source or its death ended the loop. And
    if the loop ends at all, the program does answer: turns for everyone, often enough, bring it to
    its end. -/
theorem exit_loses_nothing (source : Source σ) (signals : Signals) (policy : VlanPolicy)
    (sink : Sink τ) (state : σ) (kept : τ) {capacity : Nat} (hcap : 2 ≤ capacity)
    (overflow : Overflow) :
    (∀ memory, Ring.Fits capacity memory →
      Ring.create capacity overflow memory = .ok (.empty capacity overflow)) ∧
    (∀ (turns : List Turn) (d : Daemon σ τ),
      d = (start source state (.empty capacity overflow) kept).run source signals policy sink
        turns →
      let acts := d.tandem.handover.acts
      let worker := d.tandem.handover.worker
      let heard := sink.reportAll (sink.start source.name kept).1 (reportedIn acts)
      (d.tandem.handover.ring.closed = true → d.tandem.producer.stage.hasReturned = true) ∧
      (d.history = [] ∧ acts = [] ∧ worker.state = kept ∧ d.farewell = none ∨
        d.history = .opened :: acts.map .act ∧ worker.state = heard.1 ∧
          answersIn acts = heard.2.1 ∧ d.farewell = none ∨
        d.history = .opened :: acts.map .act ++ [.stopped] ∧ worker.stage = .finished ∧
          worker.state = heard.1 ∧ answersIn acts = heard.2.1 ∧
          d.farewell = some (sink.stop heard.1)) ∧
      ∀ answer, d.answer? = some answer →
        d.history = .opened :: acts.map .act ++ [.stopped] ∧
        d.farewell = some (sink.stop heard.1) ∧
        d.tandem.handover.ring.toList = [] ∧
        (.evicted ∉ outcomesIn acts → reportedIn acts = storedIn acts) ∧
        ((∃ failure, answer = .error failure) ↔
          ∃ e, d.tandem.producer.stage = .returned (.error e)) ∧
        ((∃ failure, answer = .error failure) ↔
          ∃ k e, source.EndsAt state signals k ∧ source.failure? state signals k = some e)) ∧
    ∀ last, source.EndsAt state signals last →
      ∃ enough, ∀ rounds : List (List Turn), (∀ round ∈ rounds, ∀ turn, turn ∈ round) →
        enough ≤ rounds.length →
        ((start source state (.empty capacity overflow) kept).run source signals policy sink
          rounds.flatten).answer? ≠ none := by
  have hstart := orderly_start source state signals kept hcap overflow
  refine ⟨fun _ => Ring.create_eq_empty hcap overflow, ?_, ?_⟩
  · rintro turns d rfl
    have h := hstart.run policy sink turns
    have ha := (attended_start source sink state (.empty capacity overflow) kept).run policy hstart
      turns
    refine ⟨h.balanced.closed, ?_, fun answer hanswer => ?_⟩
    · rcases h.history_cases ha with hnothing | ⟨hhistory, hheard, hleft⟩ |
        ⟨hhistory, hfinished, hheard, hleft⟩
      · exact .inl hnothing
      · exact .inr (.inl ⟨hhistory, hheard.state_eq, hheard.answers_eq, hleft⟩)
      · rw [hheard.state_eq] at hleft
        exact .inr (.inr ⟨hhistory, hfinished, hheard.state_eq, hheard.answers_eq, hleft⟩)
    obtain ⟨hhistory, hleft, hnil, hreported, result, hstage, herror⟩ := h.answered hanswer
    refine ⟨hhistory, ?_, hnil, hreported, ?_, ?_⟩
    · -- The last of the three forms of a history is the only one with a leave.
      rcases h.history_cases ha with ⟨-, -, -, hnone⟩ | ⟨-, -, hnone⟩ | ⟨-, -, hheard, hleft⟩
      · simp [hnone] at hleft
      · simp [hnone] at hleft
      · rw [hheard.state_eq] at hleft
        exact hleft
    · rw [herror, hstage]
      simp
    · -- What the producer returns is told by the source alone.
      rw [herror]
      simp only [h.follows.returned_error_iff hstage]
      exact exists_comm
  · intro last hends
    refine ⟨(start source state (.empty capacity overflow) kept).toDo source state policy last, ?_⟩
    intro rounds hrounds henough
    obtain ⟨result, hended⟩ :=
      ends_of_rounds source state signals policy sink hstart hends hrounds henough
    exact answer_of_ended hended

/-- Two slots, and a capture thread that dies at its second request, while the record of the first
    frame is still pending. The record is reported, and then the failure. -/
theorem exit_loses_nothing_with_two_slots :
    let request : Frame := ⟨⟨1, 0⟩, List.replicate 6 0xff ++ [2, 0, 0, 0, 0, 1, 8, 6] ++
      [0, 1, 8, 0, 6, 4, 0, 1, 2, 0, 0, 0, 0, 1, 10, 0, 0, 1, 0, 0, 0, 0, 0, 0, 10, 0, 0, 9]⟩
    let record : Sighting := .plain ⟨2, 0, 0, 0, 0, 1⟩ ⟨10, 0, 0, 1⟩ ⟨1, 0⟩ none (.arp .source)
    let source : Source (List Answer) :=
      { name := "eth0", read := fun answers => (answers.headD .closed, answers.tail) }
    let answers : List Answer := [.frame request, .died]
    let signals : Signals := { running := fun _ => true }
    let turns : List Turn := [.oversee, .oversee, .work, .oversee, .produce, .produce, .produce,
      .produce, .oversee, .oversee, .work, .work, .work, .work, .oversee, .work, .oversee]
    let failure : Failure :=
      { message := "Capture failed", causes := ["capture thread panicked"] }
    ∃ r, Ring.create 2 .evictOldest = .ok r ∧
      ∃ d, d = (start source answers r []).run source signals {} (Sink.collect none) turns ∧
        d.answer? = some (.error failure) ∧
        storedIn d.tandem.handover.acts = [record] ∧
        reportedIn d.tandem.handover.acts = [record] ∧
        d.history = .opened :: d.tandem.handover.acts.map .act ++ [.stopped] ∧
        d.farewell = some ([record], []) ∧ source.EndsAt answers signals 1 := by
  intro request record source answers signals turns failure
  obtain ⟨hcreate, hall, -⟩ := exit_loses_nothing source signals {} (Sink.collect none) answers []
    (show 2 ≤ 2 by decide) .evictOldest
  obtain ⟨-, -, hanswered⟩ := hall turns _ rfl
  have hstored : storedIn ((start source answers (.empty 2 .evictOldest) []).run source signals {}
      (Sink.collect none) turns).tandem.handover.acts = [record] := by decide +kernel
  obtain ⟨hhistory, hfarewell, -, hreported, -⟩ := hanswered (.error failure) (by decide +kernel)
  have hreported := (hreported (by decide +kernel)).trans hstored
  rw [hreported] at hfarewell
  exact ⟨_, hcreate _ (by decide), _, rfl, by decide +kernel, hstored, hreported, hhistory,
    hfarewell, by decide +kernel, by decide +kernel⟩

end Daemon

end LanWatch
