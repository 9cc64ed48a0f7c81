import LanWatch.Proofs.Watch.Threads

namespace LanWatch

/-!
# The program comes to its end

If the loop halts at some request, what is left to do for the three threads is a number. Every step
that changes anything makes it smaller, and until the main thread has ended some thread can take
such a step. So the main thread ends as soon as each thread was given its turn often enough.

* `Source.toDo`, `Producer.toDo`, `Handover.toDo`, `Overseer.toDo` — what is left to do for each;
* `Tandem.toDo_produce`, `Handover.toDo_work`, `Daemon.toDo_oversee` — a step of each makes it
  smaller, or there is a reason why the thread waits;
* `Daemon.exists_toDo_step` — until the end, one of the threads does not wait;
* `Daemon.ends_of_rounds` — the end.
-/

/-! ### The producer -/

section

variable {σ : Type} (source : Source σ) (state : σ) (policy : VlanPolicy)

/-- How many records the answer to request `k` brings. -/
def Source.recordsAt (k : Nat) : Nat :=
  match source.answer state k with
  | .frame f => (dissect policy f.seen f.data).sightings.length
  | _ => 0

/-- What is left to do from request `k` on if `n` more are answered. Each record costs a step to
    store it, and three steps of the worker. -/
def Source.toDo (k : Nat) : Nat → Nat
  | 0 => 1
  | n + 1 => 4 * source.recordsAt state policy k + 2 + toDo (k + 1) n

/-- What is left to do for a producer whose source ends at request `last`. -/
def Producer.toDo (last : Nat) (p : Producer σ) : Nat :=
  match p.stage with
  | .asking => source.toDo state policy p.reads (last - p.reads)
  | .storing rest _ => 4 * rest.length + 1 + source.toDo state policy p.reads (last - p.reads)
  | .returned _ => 0

/-- There is always something left to do before the source ends. -/
theorem Source.toDo_pos (k n : Nat) : 0 < source.toDo state policy k n := by
  cases n with
  | zero => exact Nat.one_pos
  | succ n =>
    rw [toDo]
    omega

variable {source state} {signals : Signals} {p : Producer σ} {last : Nat}

/-- The source has not ended where the producer stands. -/
theorem Producer.Follows.reads_le (h : p.Follows source state signals)
    (hends : source.EndsAt state signals last) (hunder : p.stage.hasReturned = false) :
    p.reads ≤ last := by
  by_contra hlt
  exact h.not_halted hunder last (by omega) hends.halts

/-- A request is answered with records to store, or it is the last one. -/
theorem Producer.toDo_ask (h : p.Follows source state signals)
    (hends : source.EndsAt state signals last) (hstage : p.stage = .asking) :
    (p.ask source signals policy).toDo source state policy last <
      p.toDo source state policy last := by
  have hunder : p.stage.hasReturned = false := by
    rw [hstage]
    rfl
  have hpos := source.toDo_pos state policy p.reads (last - p.reads)
  have hle := h.reads_le hends hunder
  have hread : (source.read p.state).1 = source.answer state p.reads := by
    rw [h.state_eq hunder]
    rfl
  have htodo : p.toDo source state policy last =
      source.toDo state policy p.reads (last - p.reads) := by
    simp only [toDo, hstage]
  rw [htodo]
  -- The last request is not answered with anything that goes on.
  have hgoesOn : signals.running p.reads = true →
      (source.answer state p.reads).isFinal = false → ∀ rest : List Sighting,
      rest.length = source.recordsAt state policy p.reads →
      4 * rest.length + 1 + source.toDo state policy (p.reads + 1) (last - (p.reads + 1)) <
        source.toDo state policy p.reads (last - p.reads) := by
    intro hrunning hopen rest hrest
    have hne : p.reads ≠ last := by
      rintro rfl
      rcases hends.halts with hclear | hfinal
      · rw [hrunning] at hclear
        cases hclear
      · rw [hopen] at hfinal
        cases hfinal
    obtain ⟨n, hn⟩ : ∃ n, last - p.reads = n + 1 := ⟨last - p.reads - 1, by omega⟩
    rw [hn, show last - (p.reads + 1) = n by omega, Source.toDo, hrest]
    omega
  unfold Producer.ask
  split
  case isFalse => exact hpos
  case isTrue hrunning =>
    simp only [deal, hread]
    cases hanswer : source.answer state p.reads with
    | frame f =>
      refine hgoesOn hrunning (by rw [hanswer]; rfl) _ ?_
      simp only [Source.recordsAt, hanswer]
    | idle =>
      refine hgoesOn hrunning (by rw [hanswer]; rfl) [] ?_
      simp only [Source.recordsAt, hanswer, List.length_nil]
    | closed | failed e | died => exact hpos

end

/-! ### The worker -/

/-- What is left to do for a worker with the sighting that it is busy with. -/
def Stage.toDo : Stage → Nat
  | looking => 2
  | holding _ => 1
  | releasing | finished => 0

/-- What is left to do for a worker with everything that is pending. -/
def Handover.toDo {τ : Type} (h : Handover τ) : Nat :=
  3 * h.ring.toList.length + h.worker.stage.toDo

namespace Handover

variable {τ : Type} {h : Handover τ} (sink : Sink τ)

/-- A record is at most one more for the worker. -/
theorem toDo_push (hv : h.ring.Valid) (suppress : Bool) (s : Sighting) :
    (h.step sink (.push suppress s)).toDo ≤ h.toDo + 3 := by
  have hlength : (h.ring.push suppress s).1.toList.length ≤ h.ring.toList.length + 1 := by
    rcases hv.push_cases suppress s with
      ⟨-, hlist⟩ | ⟨-, -, hlist⟩ | ⟨-, hlist⟩ | ⟨-, -, hne, hlist⟩ <;> rw [hlist] <;> simp
  show 3 * (h.ring.push suppress s).1.toList.length + h.worker.stage.toDo ≤
    3 * h.ring.toList.length + h.worker.stage.toDo + 3
  omega

/-- A worker goes on unless it has returned or waits for a sighting. -/
theorem toDo_work (hv : h.ring.Valid) (hi : h.Balanced) :
    (h.step sink .work).toDo < h.toDo ∨
      h.step sink .work = h ∧
        (h.worker.stage = .finished ∨ h.worker.stage = .looking ∧ h.ring.closed = false) := by
  unfold Handover.toDo
  simp only [step, Worker.step]
  cases hstage : h.worker.stage with
  | looking =>
    rw [hv.toLaid.await_eq]
    cases hlist : h.ring.toList with
    | nil =>
      cases hclosed : h.ring.closed with
      | false => simp
      | true => simp [hlist, Stage.toDo]
    | cons s rest => simp [hlist, Stage.toDo]
  | holding s => simp [Stage.toDo]
  | releasing =>
    -- A worker that releases a slot has one to release.
    have hpos := List.length_pos_iff.2 (hi.busy (by rw [hstage]; rfl))
    left
    show 3 * h.ring.release.toList.length + 2 < 3 * h.ring.toList.length + 0
    rw [Ring.toList_release hv, List.length_tail]
    omega
  | finished => simp

end Handover

/-! ### Both threads -/

namespace Tandem

variable {σ τ : Type} (source : Source σ) (state : σ) (signals : Signals) (policy : VlanPolicy)
  (sink : Sink τ) {t : Tandem σ τ} {last : Nat}

/-- What is left to do for both threads. -/
def toDo (last : Nat) (t : Tandem σ τ) : Nat :=
  t.producer.toDo source state policy last + t.handover.toDo

/-- A producer goes on until it returns. -/
theorem toDo_produce (h : t.Balanced) (hfollows : t.producer.Follows source state signals)
    (hends : source.EndsAt state signals last) :
    (t.step source signals policy sink .produce).toDo source state policy last <
        t.toDo source state policy last ∨
      t.step source signals policy sink .produce = t ∧ t.producer.stage.hasReturned = true := by
  simp only [step, produce]
  -- The weight falls with every question, with every sighting stored and with the statistics line;
  -- a producer that has returned stands still.
  cases hstage : t.producer.stage with
  | asking =>
    have hless := Producer.toDo_ask policy hfollows hends hstage
    left
    exact Nat.add_lt_add_right hless _
  | storing rest statsDue =>
    left
    cases rest with
    | nil =>
      refine Nat.add_lt_add_right ?_ _
      simp only [Producer.toDo, Producer.sayStats, hstage, List.length_nil]
      omega
    | cons s rest =>
      have hpush := Handover.toDo_push sink h.valid true s
      simp only [toDo, Producer.toDo, Producer.countStored, hstage, List.length_cons]
      omega
  | returned result => exact .inr ⟨rfl, rfl⟩

end Tandem

/-! ### All three threads -/

/-- What is left to do for the main thread itself. -/
def Overseer.toDo : Overseer → Nat
  | opening => 6
  | startingWorker => 5
  | startingProducer => 4
  | awaitingProducer => 3
  | closing _ => 2
  | awaitingWorker _ => 1
  | ended _ => 0

namespace Daemon

variable {σ τ : Type} (source : Source σ) (state : σ) (signals : Signals) (policy : VlanPolicy)
  (sink : Sink τ) {d : Daemon σ τ} {last : Nat}

/-- What is left to do for all three threads. -/
def toDo (last : Nat) (d : Daemon σ τ) : Nat :=
  d.overseer.toDo + d.tandem.toDo source state policy last + (if d.farewell.isSome then 0 else 1)

/-- The main thread goes on unless it waits for one of the others, or has ended. -/
theorem toDo_oversee (d : Daemon σ τ) (last : Nat) :
    (d.oversee source sink).toDo source state policy last < d.toDo source state policy last ∨
      d.oversee source sink = d ∧
        (d.overseer = .awaitingProducer ∧ d.tandem.producer.stage.hasReturned = false ∨
          (∃ result, d.overseer = .awaitingWorker result) ∧ d.farewell = none ∨
          ∃ result, d.overseer = .ended result) := by
  -- Of the others' work the main thread does nothing.
  have hless : ∀ {d' : Daemon σ τ}, d'.farewell = d.farewell →
      d'.tandem.toDo source state policy last = d.tandem.toDo source state policy last →
      d'.overseer.toDo < d.overseer.toDo →
      d'.toDo source state policy last < d.toDo source state policy last := by
    intro d' hfarewell htandem hoverseer
    unfold toDo
    rw [hfarewell, htandem]
    omega
  unfold oversee
  cases hplace : d.overseer with
  | opening => exact .inl (hless rfl rfl (by rw [hplace]; exact Nat.lt_succ_self 5))
  | startingWorker => exact .inl (hless rfl rfl (by rw [hplace]; exact Nat.lt_succ_self 4))
  | startingProducer => exact .inl (hless rfl rfl (by rw [hplace]; exact Nat.lt_succ_self 3))
  | awaitingProducer =>
    cases hstage : d.tandem.producer.stage with
    | asking => exact .inr ⟨rfl, .inl ⟨rfl, rfl⟩⟩
    | storing rest statsDue => exact .inr ⟨rfl, .inl ⟨rfl, rfl⟩⟩
    | returned result => exact .inl (hless rfl rfl (by rw [hplace]; exact Nat.lt_succ_self 2))
  | closing result => exact .inl (hless rfl rfl (by rw [hplace]; exact Nat.lt_succ_self 1))
  | awaitingWorker result =>
    cases hleft : d.farewell with
    | none => exact .inr ⟨rfl, .inr (.inl ⟨⟨result, rfl⟩, rfl⟩)⟩
    | some farewell =>
      exact .inl (hless hleft.symm rfl (by rw [hplace]; exact Nat.lt_succ_self 0))
  | ended result => exact .inr ⟨rfl, .inr (.inr ⟨result, rfl⟩)⟩

/-- The producer goes on until it returns. -/
theorem toDo_producer (h : d.Orderly source state signals)
    (hends : source.EndsAt state signals last) :
    (d.moveOn (d.tandem.step source signals policy sink .produce)).toDo source state policy last <
        d.toDo source state policy last ∨
      d.moveOn (d.tandem.step source signals policy sink .produce) = d ∧
        d.tandem.producer.stage.hasReturned = true := by
  rcases Tandem.toDo_produce source state signals policy sink h.balanced h.follows hends with
    hless | ⟨hsame, hreturned⟩
  · exact .inl (Nat.add_lt_add_right (Nat.add_lt_add_left hless _) _)
  · right
    rw [hsame, moveOn_self]
    exact ⟨rfl, hreturned⟩

/-- The worker goes on unless it has taken its leave or waits for a sighting. -/
theorem toDo_worker (h : d.Orderly source state signals) :
    (d.work source signals policy sink).toDo source state policy last <
        d.toDo source state policy last ∨
      d.work source signals policy sink = d ∧
        (d.farewell.isSome = true ∨ d.tandem.handover.ring.closed = false) := by
  unfold work
  split
  -- A finished worker without a farewell still has its farewell to say.
  case h_1 hfinished hleft =>
    left
    simp [toDo, hleft]
  case h_2 hnot =>
    -- Otherwise the worker moves as in a handover, and it rests only if it has finished or has
    -- nothing to do on open slots.
    rcases Handover.toDo_work sink h.balanced.valid h.balanced.balanced with hless | ⟨hsame, hwhy⟩
    · left
      exact Nat.add_lt_add_right (Nat.add_lt_add_left (Nat.add_lt_add_left hless _) _) _
    · right
      have hquiet : d.tandem.step source signals policy sink .work = d.tandem := by
        simp only [Tandem.step, hsame]
      rw [hquiet, moveOn_self]
      refine ⟨rfl, ?_⟩
      rcases hwhy with hfinished | ⟨-, hopen⟩
      · left
        rw [Option.isSome_iff_ne_none]
        exact hnot hfinished
      · exact .inr hopen

/-- A step that changes anything leaves less to do. -/
theorem toDo_step (h : d.Orderly source state signals) (hends : source.EndsAt state signals last)
    (turn : Turn) :
    (d.step source signals policy sink turn).toDo source state policy last <
        d.toDo source state policy last ∨
      d.step source signals policy sink turn = d := by
  -- Each thread moves only while it exists, and then its own lemma says that the weight falls or
  -- nothing changes.
  cases turn with
  | oversee => exact (toDo_oversee source state policy sink d last).imp_right And.left
  | produce =>
    simp only [step]
    split
    case isTrue =>
      refine (toDo_producer source state signals policy sink h hends).imp_right And.left
    case isFalse => exact .inr rfl
  | work =>
    simp only [step]
    split
    case isTrue => exact (toDo_worker source state signals policy sink h).imp_right And.left
    case isFalse => exact .inr rfl

/-- Until the main thread has ended, one of the threads can go on: the main thread itself, or the
    one that it waits for. -/
theorem exists_toDo_step (h : d.Orderly source state signals)
    (hends : source.EndsAt state signals last) (hnot : ∀ result, d.overseer ≠ .ended result) :
    ∃ turn, (d.step source signals policy sink turn).toDo source state policy last <
      d.toDo source state policy last := by
  rcases toDo_oversee source state policy sink d last with
    hless | ⟨-, ⟨hplace, hunder⟩ | ⟨⟨result, hplace⟩, hleft⟩ | ⟨result, hplace⟩⟩
  · exact ⟨.oversee, hless⟩
  · -- It waits for the producer, which has not returned.
    refine ⟨.produce, ?_⟩
    simp only [step, hplace, Overseer.hasProducer]
    rcases toDo_producer source state signals policy sink h hends with hless | ⟨-, hreturned⟩
    · exact hless
    · rw [hreturned] at hunder
      cases hunder
  · -- It waits for the worker, and the slots are closed.
    refine ⟨.work, ?_⟩
    simp only [step, hplace, Overseer.hasWorker]
    rcases toDo_worker source state signals policy sink h with hless | ⟨-, hsome | hopen⟩
    · exact hless
    · rw [hleft] at hsome
      cases hsome
    · rw [h.closed_eq, hplace] at hopen
      cases hopen
  · exact absurd hplace (hnot result)

/-! ### Turns for everyone -/

theorem run_append (d : Daemon σ τ) (turns more : List Turn) :
    d.run source signals policy sink (turns ++ more) =
      (d.run source signals policy sink turns).run source signals policy sink more :=
  List.foldl_append

/-- No run leaves more to do, by induction on its turns. -/
theorem toDo_run (h : d.Orderly source state signals) (hends : source.EndsAt state signals last)
    (turns : List Turn) :
    (d.run source signals policy sink turns).toDo source state policy last ≤
      d.toDo source state policy last := by
  induction turns generalizing d with
  | nil => exact Nat.le_refl _
  | cons turn turns ih =>
    have hrest := ih (h.step policy sink turn)
    rcases toDo_step source state signals policy sink h hends turn with hless | hsame
    · exact Nat.le_trans hrest (Nat.le_of_lt hless)
    · rw [hsame] at hrest
      show (run source signals policy sink (d.step source signals policy sink turn) turns).toDo
        source state policy last ≤ _
      rw [hsame]
      exact hrest

/-- If a thread that can go on has a turn, less is left to do: nothing changes before it. -/
theorem toDo_run_of_mem (h : d.Orderly source state signals)
    (hends : source.EndsAt state signals last) {turn : Turn} {turns : List Turn}
    (hturn : turn ∈ turns)
    (hless : (d.step source signals policy sink turn).toDo source state policy last <
      d.toDo source state policy last) :
    (d.run source signals policy sink turns).toDo source state policy last <
      d.toDo source state policy last := by
  induction turns with
  | nil => cases hturn
  | cons first turns ih =>
    show (run source signals policy sink (d.step source signals policy sink first) turns).toDo
      source state policy last < _
    -- The first turn lowers the weight, or it changes nothing and the turn in question is among the
    -- rest.
    rcases toDo_step source state signals policy sink h hends first with hfirst | hsame
    · have hrest := toDo_run source state signals policy sink (h.step policy sink first) hends turns
      -- The rest of the round does not raise it again.
      omega
    · rw [hsame]
      rcases List.mem_cons.1 hturn with rfl | hturn
      · rw [hsame] at hless
        omega
      · exact ih hturn

/-- A main thread that has ended takes no step, and the others take none for it. -/
theorem ended_run {result : Except CaptureError Summary} (hended : d.overseer = .ended result)
    (turns : List Turn) :
    (d.run source signals policy sink turns).overseer = .ended result := by
  induction turns generalizing d with
  | nil => exact hended
  | cons turn turns ih =>
    refine ih ?_
    -- Nobody moves an overseer that has ended.
    cases turn with
    | oversee =>
      simp only [step, oversee, hended]
    | produce =>
      simp only [step]
      split <;> exact hended
    | work =>
      simp only [step, work]
      split
      · split <;> exact hended
      · exact hended

/-- Rounds in which every thread has its turn, by induction on them: with each of them less is left
    to do, until the main thread has ended. -/
theorem ends_of_rounds (h : d.Orderly source state signals)
    (hends : source.EndsAt state signals last) {rounds : List (List Turn)}
    (hrounds : ∀ round ∈ rounds, ∀ turn, turn ∈ round)
    (henough : d.toDo source state policy last ≤ rounds.length) :
    ∃ result, (d.run source signals policy sink rounds.flatten).overseer = .ended result := by
  induction rounds generalizing d with
  -- The rounds are used up, so no weight is left, and a turn that lowers it further cannot exist.
  | nil =>
    by_contra hnot
    obtain ⟨turn, hless⟩ := exists_toDo_step source state signals policy sink h hends
      fun result hended => hnot ⟨result, hended⟩
    rw [List.length_nil] at henough
    omega
  | cons round rounds ih =>
    rw [List.flatten_cons, run_append]
    by_cases hended : ∃ result, d.overseer = .ended result
    · obtain ⟨result, hended⟩ := hended
      exact ⟨result, ended_run source signals policy sink
        (ended_run source signals policy sink hended round) rounds.flatten⟩
    · -- The round holds the turn that lowers the weight, so one round pays for one step of it.
      obtain ⟨turn, hturn⟩ := exists_toDo_step source state signals policy sink h hends
        fun result hover => hended ⟨result, hover⟩
      have hless := toDo_run_of_mem source state signals policy sink h hends
        (hrounds round List.mem_cons_self turn) hturn
      rw [List.length_cons] at henough
      exact ih (h.run policy sink round) (fun r hr => hrounds r (List.mem_cons_of_mem _ hr))
        (by omega)

end Daemon

end LanWatch
