import LanWatch.Proofs.Pending.Refinement
import LanWatch.Report.Handover

namespace LanWatch.Handover

/-!
# What one step can do

The steps of producer and worker, told by what they do to the list of pending sightings. Everything
about runs is proved from this and from nothing else about slots.

* `Effect` — what a step leaves, one constructor for each way that it can go;
* `step_effect` — with slots that are laid out as they should be, every step goes one of these ways;
* `returns_iff`, `returns_of_finished` — how a worker returns, and when;
* `run_induction` — what no step breaks holds after every run.
-/

variable {σ : Type}

/-! ### Histories, one act longer -/

theorem storedIn_concat (acts : List Act) (a : Act) :
    storedIn (acts ++ [a]) = storedIn acts ++ storedIn [a] :=
  List.filterMap_append

/-- The reports in a history, and the one in the last act, if it was one. -/
theorem reportedIn_concat (acts : List Act) (a : Act) :
    reportedIn (acts ++ [a]) = reportedIn acts ++ reportedIn [a] :=
  List.filterMap_append

/-- An act that stores nothing leaves the stored sightings as they are. -/
theorem storedIn_concat_of_nil {acts : List Act} {a : Act} (h : storedIn [a] = []) :
    storedIn (acts ++ [a]) = storedIn acts := by
  rw [storedIn_concat, h, List.append_nil]

/-- An act that reports nothing leaves the reports as they are. -/
theorem reportedIn_concat_of_nil {acts : List Act} {a : Act} (h : reportedIn [a] = []) :
    reportedIn (acts ++ [a]) = reportedIn acts := by
  rw [reportedIn_concat, h, List.append_nil]

theorem releasesIn_concat (acts : List Act) (a : Act) :
    releasesIn (acts ++ [a]) = releasesIn acts + releasesIn [a] :=
  List.count_append

theorem ofActs_concat (acts : List Act) (a : Act) :
    Ledger.ofActs (acts ++ [a]) = (Ledger.ofActs acts).enter a := by
  unfold Ledger.ofActs
  rw [List.foldl_append]
  rfl

/-! ### One step -/

/-- What a turn can leave of `h`. -/
inductive Effect (sink : Sink σ) (h : Handover σ) : Turn → Handover σ → Prop where
  /-- The producer's sighting was not stored. -/
  | passes (suppress : Bool) (s : Sighting) (outcome : PushOutcome)
      (hout : (h.ring.push suppress s).2 = outcome)
      (ho : outcome = .duplicate ∨ outcome = .dropped)
      (hlist : (h.ring.push suppress s).1.toList = h.ring.toList) :
      Effect sink h (.push suppress s)
        { h with ring := (h.ring.push suppress s).1, acts := h.acts ++ [.pushed s outcome] }
  /-- The producer's sighting found room. -/
  | stores (suppress : Bool) (s : Sighting) (hout : (h.ring.push suppress s).2 = .stored)
      (hlist : (h.ring.push suppress s).1.toList = h.ring.toList ++ [s]) :
      Effect sink h (.push suppress s)
        { h with ring := (h.ring.push suppress s).1, acts := h.acts ++ [.pushed s .stored] }
  /-- The oldest sighting made room for the producer's. -/
  | evicts (suppress : Bool) (s : Sighting) (hout : (h.ring.push suppress s).2 = .evicted)
      (hmode : h.ring.overflow = .evictOldest) (hne : h.ring.toList ≠ [])
      (hlist : (h.ring.push suppress s).1.toList = h.ring.toList.tail ++ [s]) :
      Effect sink h (.push suppress s)
        { h with ring := (h.ring.push suppress s).1, acts := h.acts ++ [.pushed s .evicted] }
  /-- The slots were closed. -/
  | closes : Effect sink h .close { h with ring := h.ring.close, acts := h.acts ++ [.closed] }
  /-- The worker waits, or has returned. -/
  | rests : Effect sink h .work h
  /-- The worker looked at the oldest sighting. -/
  | looks (s : Sighting) (hstage : h.worker.stage = .looking)
      (hhead : h.ring.toList.head? = some s) :
      Effect sink h .work
        { h with worker := { h.worker with stage := .holding s }, acts := h.acts ++ [.looked s] }
  /-- The worker gave its copy to the sink, and kept what the sink made of it. -/
  | reports (s : Sighting) (hstage : h.worker.stage = .holding s) :
      Effect sink h .work
        { h with
          worker := { h.worker with
            stage := .releasing
            state := (sink.report s h.worker.state).state
            log := h.worker.log ++ ((sink.report s h.worker.state).log ++
              (sink.report s h.worker.state).error.toList.map (failedReportEvent s)) }
          acts := h.acts ++ [.reported s (sink.report s h.worker.state).error] }
  /-- The worker released a slot. -/
  | releases (hstage : h.worker.stage = .releasing)
      (hlist : h.ring.release.toList = h.ring.toList.tail) :
      Effect sink h .work
        { ring := h.ring.release
          worker := { h.worker with stage := .looking, handled := h.worker.handled + 1 }
          acts := h.acts ++ [.released] }
  /-- The worker found the slots closed and empty. -/
  | returns (hstage : h.worker.stage = .looking) (hlist : h.ring.toList = [])
      (hclosed : h.ring.closed = true) :
      Effect sink h .work
        { h with
          worker := { h.worker with
            stage := .finished
            log := h.worker.log ++ [drainedEvent h.worker.handled] }
          acts := h.acts ++ [.returned h.worker.handled] }

/-- With valid slots, every step is one of these. -/
theorem step_effect (sink : Sink σ) {h : Handover σ} (hv : h.ring.Valid) (t : Turn) :
    Effect sink h t (h.step sink t) := by
  cases t with
  | push suppress s =>
    show Effect sink h (.push suppress s) ⟨(h.ring.push suppress s).1, h.worker,
      h.acts ++ [.pushed s (h.ring.push suppress s).2]⟩
    -- The outcome of the store tells which way it went.
    rcases hv.push_cases suppress s with
      ⟨ho, hlist⟩ | ⟨ho, -, hlist⟩ | ⟨ho, hlist⟩ | ⟨ho, hmode, hne, hlist⟩
    · rw [ho]
      exact .passes suppress s _ ho (.inl rfl) hlist
    · rw [ho]
      exact .passes suppress s _ ho (.inr rfl) hlist
    · rw [ho]
      exact .stores suppress s ho hlist
    · rw [ho]
      exact .evicts suppress s ho hmode hne hlist
  | close => exact .closes
  | work =>
    simp only [step, Worker.step]
    cases hstage : h.worker.stage with
    | looking =>
      -- What a worker that looks gets depends on the list, and on the close if the list is empty.
      rw [hv.toLaid.await_eq]
      cases hlist : h.ring.toList with
      | nil =>
        cases hclosed : h.ring.closed with
        | false => exact .rests
        | true => exact .returns hstage hlist hclosed
      | cons s rest => exact .looks s hstage (by rw [hlist]; rfl)
    | holding s => exact .reports s hstage
    | releasing => exact .releases hstage (Ring.toList_release hv)
    | finished => exact .rests

/-- A worker that says that it returns does so, with the number of sightings that it is done with;
    and no worker returns without saying so. -/
theorem returns_iff (sink : Sink σ) {h : Handover σ} (hv : h.ring.Valid) {t : Turn} {n : Nat} :
    (h.step sink t).acts = h.acts ++ [.returned n] ↔
      h.worker.stage ≠ .finished ∧ (h.step sink t).worker.stage = .finished ∧
        (h.step sink t).worker.handled = n := by
  have heffect := step_effect sink hv t
  generalize h.step sink t = h' at heffect
  cases heffect with
  | returns hstage => simp [hstage]
  | looks s hstage | reports s hstage | releases hstage => simp
  | rests | passes | stores | evicts | closes =>
    -- The worker stays where it is, so it cannot have returned just now.
    refine ⟨fun hacts => by simp at hacts, ?_⟩
    rintro ⟨hworking, hfinished, -⟩
    exact absurd hfinished hworking

/-- A worker returns only with the slots closed and empty. -/
theorem returns_of_finished (sink : Sink σ) {h : Handover σ} (hv : h.ring.Valid) {t : Turn}
    (hworking : h.worker.stage ≠ .finished) (hfinished : (h.step sink t).worker.stage = .finished) :
    h.worker.stage = .looking ∧ h.ring.toList = [] ∧ h.ring.closed = true ∧
      (h.step sink t).worker.handled = h.worker.handled ∧ (h.step sink t).ring = h.ring := by
  have heffect := step_effect sink hv t
  generalize h.step sink t = h' at hfinished heffect
  cases heffect with
  | returns hstage hlist hclosed => exact ⟨hstage, hlist, hclosed, rfl, rfl⟩
  | rests | passes | stores | evicts | closes => exact absurd hfinished hworking
  | looks | reports | releases => cases hfinished

/-- Every step leaves valid slots valid. -/
theorem valid_step (sink : Sink σ) {h : Handover σ} (hv : h.ring.Valid) (t : Turn) :
    (h.step sink t).ring.Valid := by
  cases t with
  | push suppress s => exact Ring.valid_push hv suppress s
  | close => exact Ring.valid_close hv
  | work =>
    simp only [step, Worker.step]
    cases h.worker.stage with
    | looking => cases h.ring.await <;> exact hv
    | holding s => exact hv
    | releasing => exact Ring.valid_release hv
    | finished => exact hv

/-- No step changes what happens to sightings that find no room. -/
theorem overflow_step (sink : Sink σ) (h : Handover σ) (t : Turn) :
    (h.step sink t).ring.overflow = h.ring.overflow := by
  cases t with
  | push suppress s => exact (Ring.push_keeps h.ring suppress s).1
  | close => rfl
  | work =>
    simp only [step, Worker.step]
    cases h.worker.stage with
    | looking => cases h.ring.await <;> rfl
    | holding s => rfl
    | releasing => exact (Ring.release_keeps h.ring).1
    | finished => rfl

/-- Only closing closes. -/
theorem closed_step (sink : Sink σ) (h : Handover σ) {t : Turn} (ht : t ≠ .close) :
    (h.step sink t).ring.closed = h.ring.closed := by
  cases t with
  | push suppress s => exact (Ring.push_keeps h.ring suppress s).2
  | close => exact absurd rfl ht
  | work =>
    simp only [step, Worker.step]
    cases h.worker.stage with
    | looking => cases h.ring.await <;> rfl
    | holding s => rfl
    | releasing => exact (Ring.release_keeps h.ring).2
    | finished => rfl

/-! ### Runs -/

theorem run_cons (sink : Sink σ) (h : Handover σ) (t : Turn) (ts : List Turn) :
    h.run sink (t :: ts) = (h.step sink t).run sink ts := rfl

theorem run_append (sink : Sink σ) (h : Handover σ) (ts us : List Turn) :
    h.run sink (ts ++ us) = (h.run sink ts).run sink us :=
  List.foldl_append

theorem valid_run (sink : Sink σ) {h : Handover σ} (hv : h.ring.Valid) (ts : List Turn) :
    (h.run sink ts).ring.Valid := by
  -- By induction on the turns.
  induction ts generalizing h with
  | nil => exact hv
  | cons t ts ih => exact ih (valid_step sink hv t)

/-- What holds with valid slots at the start, and is broken by none of the turns, holds after
    them. -/
theorem run_induction (sink : Sink σ) (P : Handover σ → Prop) (ts : List Turn)
    (hstep : ∀ h, ∀ t ∈ ts, h.ring.Valid → P h → P (h.step sink t)) {h : Handover σ}
    (hv : h.ring.Valid) (hP : P h) : P (h.run sink ts) := by
  induction ts generalizing h with
  | nil => exact hP
  | cons t ts ih =>
    exact ih (fun h t ht => hstep h t (List.mem_cons_of_mem _ ht)) (valid_step sink hv t)
      (hstep h t List.mem_cons_self hv hP)

end LanWatch.Handover
