import LanWatch.Proofs.Handover.Hearing
import LanWatch.Proofs.Handover.Steps
import LanWatch.Report.Crew
import Mathlib.Algebra.BigOperators.Fin

namespace LanWatch

/-!
# What several workers look at

Each worker is a worker at the slots as it finds them. So every step of a crew is a step of one
worker and the slots, and the others stay where they are. By the numbers of the ledger: what was
looked at was reported or is held by a worker, and the workers together have looked as often as they
have released slots, and once more for each of them that is busy.

* `Crew.seenBy`, `Crew.takeOver`, `Crew.step_work` — a step of a crew as the step of one worker;
* `Crew.hears_step`, `Crew.hears_run` — what each sink hears is what its worker did;
* `Crew.taken` — how often the workers looked;
* `Crew.Tracked` — how the ledger, the pending sightings and the places of the workers belong
  together;
* `Crew.Tracked.look`, `Crew.Tracked.report`, `Crew.Tracked.release` and their like — one lemma for
  each way that a step can go;
* `Crew.tracked_step`, `Crew.tracked_run` — no step breaks that, and no run.
-/

/-- How often a worker looked at a sighting: it is done with all but the last one, if it is busy. -/
def Worker.taken {σ : Type} (w : Worker σ) : Nat :=
  w.handled + if w.stage.busy then 1 else 0

namespace Crew

variable {σ : Type} {k : Nat} {c : Crew σ k}

/-! ### One worker at a time -/

theorem ofDeeds_concat (deeds : List (Deed k)) (d : Deed k) :
    Ledger.ofDeeds (deeds ++ [d]) = (Ledger.ofDeeds deeds).enter d := by
  unfold Ledger.ofDeeds
  rw [List.foldl_append]
  rfl

/-- The slots and one of the workers. -/
def seenBy (c : Crew σ k) (i : Fin k) : Handover σ :=
  { ring := c.ring, worker := c.workers i }

/-- The crew after one of the workers went on, with what that one did. -/
def takeOver (c : Crew σ k) (i : Fin k) (h : Handover σ) : Crew σ k where
  ring := h.ring
  workers j := if j = i then h.worker else c.workers j
  deeds := c.deeds ++ h.acts.map fun a => ⟨some i, a⟩

/-- A worker that rests changes nothing. -/
theorem takeOver_self (c : Crew σ k) (i : Fin k) : c.takeOver i (c.seenBy i) = c := by
  have hworkers : (fun j => if j = i then c.workers i else c.workers j) = c.workers := by
    funext j
    by_cases hj : j = i
    · rw [if_pos hj, hj]
    · rw [if_neg hj]
  unfold takeOver seenBy
  rw [hworkers, List.map_nil, List.append_nil]

/-- The step of a worker is what it would be without the others. -/
theorem step_work (sinks : Fin k → Sink σ) (c : Crew σ k) (i : Fin k) :
    c.step sinks (.work i) = c.takeOver i ((c.seenBy i).step (sinks i) .work) := by
  simp only [step, Handover.step]
  rw [show (c.seenBy i).worker = c.workers i from rfl, show (c.seenBy i).ring = c.ring from rfl]
  cases (c.workers i).step (sinks i) c.ring with
  | none => exact (c.takeOver_self i).symm
  | some next => rfl

theorem run_cons (sinks : Fin k → Sink σ) (c : Crew σ k) (t : Turn k) (ts : List (Turn k)) :
    c.run sinks (t :: ts) = (c.step sinks t).run sinks ts := rfl

theorem run_append (sinks : Fin k → Sink σ) (c : Crew σ k) (ts us : List (Turn k)) :
    c.run sinks (ts ++ us) = (c.run sinks ts).run sinks us :=
  List.foldl_append

/-! ### What each sink hears -/

/-- A deed is one of those of the worker that it names. -/
theorem actsOf_concat (c : Crew σ k) (ring : Ring) (workers : Fin k → Worker σ) (d : Deed k)
    (i : Fin k) :
    actsOf ⟨ring, workers, c.deeds ++ [d]⟩ i =
      c.actsOf i ++ if d.worker = some i then [d.act] else [] := by
  unfold actsOf
  rw [List.filterMap_append]
  by_cases hi : d.worker = some i
  · simp [hi]
  · simp [hi]

/-- The deeds of others are none of its acts. -/
theorem actsOf_concat_of_ne {ring : Ring} {workers : Fin k → Worker σ} {who : Option (Fin k)}
    {a : Act} {i : Fin k} (h : who ≠ some i) :
    actsOf ⟨ring, workers, c.deeds ++ [⟨who, a⟩]⟩ i = c.actsOf i := by
  rw [actsOf_concat, if_neg h, List.append_nil]

/-- Whoever takes the step, the acts of each worker go on telling what its sink has heard: those of
    the one that goes on become one more, and those of the others stay. -/
theorem hears_step {sinks : Fin k → Sink σ} {states : Fin k → σ}
    (h : ∀ j, (sinks j).Hears (states j) (c.actsOf j) (c.workers j).state) (t : Turn k) (j : Fin k) :
    (sinks j).Hears (states j) ((c.step sinks t).actsOf j) ((c.step sinks t).workers j).state := by
  cases t with
  -- A push and the close are no acts of a worker.
  | push suppress s =>
    rw [step, actsOf_concat_of_ne (Option.some_ne_none j).symm]
    exact h j
  | close =>
    rw [step, actsOf_concat_of_ne (Option.some_ne_none j).symm]
    exact h j
  | work i =>
    simp only [step]
    cases hstep : (c.workers i).step (sinks i) c.ring with
    | none => exact h j
    | some next =>
      -- The acts of a worker are entered under its own name only.
      dsimp only
      by_cases hj : j = i
      · subst hj
        rw [actsOf_concat, if_pos rfl, if_pos rfl]
        exact (h j).append (Worker.step_hears hstep)
      · have hother : some i ≠ some j := fun hi => hj (Option.some.inj hi).symm
        rw [actsOf_concat_of_ne hother, if_neg hj]
        exact h j

theorem hears_run (sinks : Fin k → Sink σ) (r : Ring) (states : Fin k → σ) (turns : List (Turn k))
    (i : Fin k) :
    (sinks i).Hears (states i) (((start r states).run sinks turns).actsOf i)
      (((start r states).run sinks turns).workers i).state := by
  -- By induction on the turns, from slots at which nothing was done yet.
  suffices h : ∀ c : Crew σ k, (∀ j, (sinks j).Hears (states j) (c.actsOf j) (c.workers j).state) →
      (sinks i).Hears (states i) ((c.run sinks turns).actsOf i) ((c.run sinks turns).workers i).state
    from h _ fun j => .nil (states j)
  induction turns with
  | nil => exact fun _ h => h i
  | cons t turns ih => exact fun c h => ih (c.step sinks t) (hears_step h t)

/-! ### Sums over the workers -/

/-- A sum over the workers after one of them went on. -/
theorem sum_takeOver (c : Crew σ k) (i : Fin k) (h : Handover σ) (f : Worker σ → Nat) :
    ((List.finRange k).map fun j => f ((c.takeOver i h).workers j)).sum + f (c.workers i) =
      ((List.finRange k).map fun j => f (c.workers j)).sum + f h.worker := by
  rw [← Fin.sum_univ_def, ← Fin.sum_univ_def,
    ← Finset.add_sum_erase _ _ (Finset.mem_univ i),
    ← Finset.add_sum_erase _ (fun j => f (c.workers j)) (Finset.mem_univ i)]
  have hothers : ∑ j ∈ Finset.univ.erase i, f ((c.takeOver i h).workers j) =
      ∑ j ∈ Finset.univ.erase i, f (c.workers j) := by
    refine Finset.sum_congr rfl fun j hj => ?_
    simp [takeOver, Finset.ne_of_mem_erase hj]
  have hself : (c.takeOver i h).workers i = h.worker := if_pos rfl
  rw [hothers, hself]
  omega

/-- How often the workers looked at a sighting, all together. -/
def taken (c : Crew σ k) : Nat :=
  ((List.finRange k).map fun i => (c.workers i).taken).sum

/-- Only one worker looks. -/
theorem taken_takeOver (c : Crew σ k) (i : Fin k) (h : Handover σ) :
    (c.takeOver i h).taken + (c.workers i).taken = c.taken + h.worker.taken :=
  c.sum_takeOver i h Worker.taken

/-- Only one worker is done with a sighting. -/
theorem handled_takeOver (c : Crew σ k) (i : Fin k) (h : Handover σ) :
    (c.takeOver i h).handled + (c.workers i).handled = c.handled + h.worker.handled :=
  c.sum_takeOver i h Worker.handled

/-! ### The ledger and the workers -/

/-- A worker holds a copy of the sighting with a given number. -/
def Holds (c : Crew σ k) (n : Nat) : Prop :=
  ∃ i s, (c.workers i).stage = .holding s ∧ c.ledger.looked i = n

/-- How the ledger, the pending sightings and the places of the workers belong together. -/
structure Tracked (c : Crew σ k) : Prop where
  valid : c.ring.Valid
  bounded : c.ring.overflow = .dropNew
  accepted_eq : c.ledger.accepted = storedIn c.acts
  departures_le : c.ledger.departures ≤ c.ledger.accepted.length
  pending : c.ledger.accepted.drop c.ledger.departures = c.ring.toList
  holding : ∀ i s, (c.workers i).stage = .holding s →
    c.ledger.accepted[c.ledger.looked i]? = some s
  told : List.Forall₂ (fun n s => c.ledger.accepted[n]? = some s) c.ledger.reported
    (reportedIn c.acts)
  looks_iff : ∀ n, n ∈ c.ledger.looks ↔ n ∈ c.ledger.reported ∨ c.Holds n
  looks_length : c.ledger.looks.length = c.taken
  departures_le_handled : c.ledger.departures ≤ c.handled

/-- Nothing was looked at yet, and nothing is pending. -/
theorem tracked_start {r : Ring} (hv : r.Valid) (hbounded : r.overflow = .dropNew)
    (hlist : r.toList = []) (states : Fin k → σ) : (start r states).Tracked where
  valid := hv
  bounded := hbounded
  accepted_eq := rfl
  departures_le := Nat.le_refl 0
  pending := hlist.symm
  holding i s hs := by cases hs
  told := .nil
  looks_iff n := by
    constructor
    · -- Nothing was looked at, and no worker holds anything.
      intro hn
      cases hn
    · rintro (hn | ⟨i, s, hs, -⟩)
      · cases hn
      · cases hs
  looks_length := by
    show 0 = ((List.finRange k).map fun _ => 0).sum
    simp
  departures_le_handled := Nat.zero_le _

/-! ### The ways that a step can go -/

/-- A step of the producer, which adds the same sightings to the stored and to the pending ones. -/
theorem Tracked.of_producer (h : c.Tracked) {ring : Ring} {d : Deed k} {new : List Sighting}
    (hv : ring.Valid) (hbounded : ring.overflow = .dropNew)
    (hlist : ring.toList = c.ring.toList ++ new) (hstored : storedIn [d.act] = new)
    (hledger : c.ledger.enter d = { c.ledger with accepted := c.ledger.accepted ++ new })
    (hreported : reportedIn [d.act] = []) :
    ({ c with ring, deeds := c.deeds ++ [d] } : Crew σ k).Tracked := by
  generalize hc : ({ c with ring, deeds := c.deeds ++ [d] } : Crew σ k) = c'
  have hledger : c'.ledger = { c.ledger with accepted := c.ledger.accepted ++ new } := by
    rw [← hc]
    exact (ofDeeds_concat c.deeds d).trans hledger
  have hacts : c'.acts = c.acts ++ [d.act] := by
    rw [← hc]
    exact List.map_append
  have hworkers : c'.workers = c.workers := by
    rw [← hc]
  have hring : c'.ring = ring := by
    rw [← hc]
  -- What was accepted before keeps its number.
  have hkeeps : ∀ (n : Nat) x, c.ledger.accepted[n]? = some x →
      (c.ledger.accepted ++ new)[n]? = some x := by
    intro n x hx
    rw [List.getElem?_append_left (List.getElem?_eq_some_iff.1 hx).1]
    exact hx
  exact {
    valid := hring ▸ hv
    bounded := hring ▸ hbounded
    accepted_eq := by
      rw [hledger, hacts, Handover.storedIn_concat, hstored, ← h.accepted_eq]
    departures_le := by
      rw [hledger]
      show c.ledger.departures ≤ (c.ledger.accepted ++ new).length
      rw [List.length_append]
      exact Nat.le_add_right_of_le h.departures_le
    pending := by
      rw [hledger, hring, hlist, ← h.pending]
      exact List.drop_append_of_le_length h.departures_le
    holding := by
      intro i x hx
      rw [hworkers] at hx
      rw [hledger]
      exact hkeeps _ _ (h.holding i x hx)
    told := by
      rw [hledger, hacts, Handover.reportedIn_concat_of_nil hreported]
      refine List.Forall₂.imp ?_ h.told
      intro n x
      exact hkeeps n x
    looks_iff := by
      intro n
      simp only [Holds, hledger, hworkers]
      exact h.looks_iff n
    looks_length := by
      simp only [taken, hledger, hworkers]
      exact h.looks_length
    departures_le_handled := by
      simp only [handled, hledger, hworkers]
      exact h.departures_le_handled }

/-- A step of the producer that the ledger does not show. -/
theorem Tracked.of_unseen (h : c.Tracked) {ring : Ring} {d : Deed k} (hv : ring.Valid)
    (hbounded : ring.overflow = .dropNew) (hlist : ring.toList = c.ring.toList)
    (hledger : c.ledger.enter d = c.ledger) (hstored : storedIn [d.act] = [])
    (hreported : reportedIn [d.act] = []) :
    ({ c with ring, deeds := c.deeds ++ [d] } : Crew σ k).Tracked :=
  h.of_producer hv hbounded (by simp [hlist]) hstored (by simp [hledger]) hreported

variable {i : Fin k} {after : Handover σ} {a : Act}

/-- What the worker did is entered under its name. -/
theorem ledger_takeOver (hacts : after.acts = [a]) :
    (c.takeOver i after).ledger = c.ledger.enter ⟨some i, a⟩ := by
  unfold ledger takeOver
  rw [hacts]
  exact ofDeeds_concat c.deeds _

theorem acts_takeOver (hacts : after.acts = [a]) : (c.takeOver i after).acts = c.acts ++ [a] := by
  unfold acts takeOver
  rw [hacts]
  exact List.map_append

/-- A worker other than `i` holds a copy of the sighting with a given number. -/
def OtherHolds (c : Crew σ k) (i : Fin k) (n : Nat) : Prop :=
  ∃ j s, j ≠ i ∧ (c.workers j).stage = .holding s ∧ c.ledger.looked j = n

/-- A sighting is held by the one worker or by another one. -/
theorem holds_iff (c : Crew σ k) (i : Fin k) (n : Nat) :
    c.Holds n ↔
      (∃ s, (c.workers i).stage = .holding s ∧ c.ledger.looked i = n) ∨ c.OtherHolds i n := by
  constructor
  · rintro ⟨j, s, hs, hn⟩
    by_cases hj : j = i
    · subst hj
      exact .inl ⟨s, hs, hn⟩
    · exact .inr ⟨j, s, hj, hs, hn⟩
  · rintro (⟨s, hs, hn⟩ | ⟨j, s, -, hs, hn⟩)
    · exact ⟨i, s, hs, hn⟩
    · exact ⟨j, s, hs, hn⟩

/-- A step of worker `i`, told by what it enters into the ledger: others hold what they held. -/
theorem Tracked.of_work (h : c.Tracked) (hacts : after.acts = [a]) {l : Ledger k}
    (hl : c.ledger.enter ⟨some i, a⟩ = l) (hstored : storedIn [a] = [])
    (hv : after.ring.Valid) (hbounded : after.ring.overflow = .dropNew)
    (haccepted : l.accepted = c.ledger.accepted) (hle : l.departures ≤ c.ledger.accepted.length)
    (hpending : c.ledger.accepted.drop l.departures = after.ring.toList)
    (hlooked : ∀ j, j ≠ i → l.looked j = c.ledger.looked j)
    (hholding : ∀ s, after.worker.stage = .holding s → c.ledger.accepted[l.looked i]? = some s)
    (htold : List.Forall₂ (fun n s => c.ledger.accepted[n]? = some s) l.reported
      (reportedIn c.acts ++ reportedIn [a]))
    (hlooks : ∀ n others,
      (n ∈ c.ledger.looks ↔ n ∈ c.ledger.reported ∨
        (∃ s, (c.workers i).stage = .holding s ∧ c.ledger.looked i = n) ∨ others) →
      (n ∈ l.looks ↔
        n ∈ l.reported ∨ (∃ s, after.worker.stage = .holding s ∧ l.looked i = n) ∨ others))
    (hlength : l.looks.length + (c.workers i).taken = c.ledger.looks.length + after.worker.taken)
    (hhandled : l.departures + (c.workers i).handled ≤
      c.ledger.departures + after.worker.handled) : (c.takeOver i after).Tracked := by
  have hself : (c.takeOver i after).workers i = after.worker := if_pos rfl
  have hother : ∀ j, j ≠ i → (c.takeOver i after).workers j = c.workers j := fun j hj => if_neg hj
  rw [← ledger_takeOver hacts] at hl
  exact {
    valid := hv
    bounded := hbounded
    accepted_eq := by
      rw [hl, haccepted, acts_takeOver hacts, Handover.storedIn_concat_of_nil hstored]
      exact h.accepted_eq
    departures_le := by
      rw [hl, haccepted]
      exact hle
    pending := by
      rw [hl, haccepted]
      exact hpending
    holding := by
      intro j s hs
      rw [hl, haccepted]
      by_cases hj : j = i
      · subst hj
        rw [hself] at hs
        exact hholding s hs
      · rw [hother j hj] at hs
        rw [hlooked j hj]
        exact h.holding j s hs
    told := by
      rw [hl, haccepted, acts_takeOver hacts, Handover.reportedIn_concat]
      exact htold
    looks_iff := by
      -- The others hold what they held, so only what worker `i` holds can change.
      intro n
      have hothers : (c.takeOver i after).OtherHolds i n ↔ c.OtherHolds i n := by
        unfold OtherHolds
        refine exists_congr fun j => exists_congr fun s => and_congr_right fun hj => ?_
        rw [hother j hj, hl, hlooked j hj]
      have hbefore := h.looks_iff n
      rw [c.holds_iff i] at hbefore
      rw [(c.takeOver i after).holds_iff i, hothers, hself, hl]
      exact hlooks n _ hbefore
    looks_length := by
      have hsum := c.taken_takeOver i after
      have hbefore := h.looks_length
      rw [hl]
      omega
    departures_le_handled := by
      have hsum := c.handled_takeOver i after
      have hbefore := h.departures_le_handled
      rw [hl]
      omega }

/-- A worker looks at the oldest sighting, which has the number of those that have left. -/
theorem Tracked.look (h : c.Tracked) (hstage : (c.workers i).stage = .looking) {s : Sighting}
    (hhead : c.ring.toList.head? = some s) :
    (c.takeOver i ⟨c.ring, { c.workers i with stage := .holding s }, [.looked s]⟩).Tracked := by
  refine h.of_work rfl rfl rfl h.valid h.bounded rfl h.departures_le h.pending
    (fun j hj => if_neg hj) ?_ ?_ ?_ ?_ (Nat.le_refl _)
  · rintro _ ⟨⟩
    -- The number looked at is the next to leave, which is the oldest pending one.
    show c.ledger.accepted[if i = i then c.ledger.departures else c.ledger.looked i]? = some s
    rw [if_pos rfl, ← List.head?_drop, h.pending, hhead]
  · show List.Forall₂ _ c.ledger.reported (reportedIn c.acts ++ [])
    rw [List.append_nil]
    exact h.told
  · intro n others hn
    show n ∈ c.ledger.looks ++ [c.ledger.departures] ↔ n ∈ c.ledger.reported ∨
      (∃ x, Stage.holding s = .holding x ∧
        (if i = i then c.ledger.departures else c.ledger.looked i) = n) ∨ others
    -- The new look is the one of the worker that now holds its sighting.
    have hnew : (∃ x, Stage.holding s = .holding x ∧ c.ledger.departures = n) ↔
        n = c.ledger.departures := by simp [eq_comm]
    rw [List.mem_append, List.mem_singleton, hn, if_pos rfl, hnew, hstage]
    simp only [reduceCtorEq, false_and, exists_false, false_or]
    tauto
  · show (c.ledger.looks ++ [c.ledger.departures]).length + _ = _
    rw [List.length_append]
    simp [Worker.taken, hstage, Stage.busy]
    omega

/-- A worker reports what it holds, under the number that it looked at. -/
theorem Tracked.report (h : c.Tracked) {s : Sighting}
    (hstage : (c.workers i).stage = .holding s) (state : σ) (log : Log)
    (error : Option SinkError) :
    (c.takeOver i ⟨c.ring, { c.workers i with stage := .releasing, state, log },
      [.reported s error]⟩).Tracked := by
  refine h.of_work rfl rfl rfl h.valid h.bounded rfl h.departures_le h.pending
    (fun _ _ => rfl) nofun ?_ ?_ ?_ (Nat.le_refl _)
  · exact List.rel_append h.told (.cons (h.holding i s hstage) .nil)
  · intro n others hn
    show n ∈ c.ledger.looks ↔ n ∈ c.ledger.reported ++ [c.ledger.looked i] ∨
      (∃ x, Stage.releasing = .holding x ∧ _) ∨ others
    rw [List.mem_append, List.mem_singleton, hn, hstage]
    simp [eq_comm, or_assoc]
  · show c.ledger.looks.length + _ = _
    simp [Worker.taken, hstage, Stage.busy]

/-- A worker releases a slot, if there is one to release. -/
theorem Tracked.release (h : c.Tracked) (hstage : (c.workers i).stage = .releasing)
    (hlist : c.ring.release.toList = c.ring.toList.tail) :
    (c.takeOver i ⟨c.ring.release,
      { c.workers i with stage := .looking, handled := (c.workers i).handled + 1 },
      [.released]⟩).Tracked := by
  have hle := h.departures_le
  refine h.of_work rfl rfl rfl (Ring.valid_release h.valid) ?_ rfl (Nat.min_le_right _ _) ?_
    (fun _ _ => rfl) nofun ?_ ?_ ?_ ?_
  · exact (Ring.release_keeps c.ring).1.trans h.bounded
  · -- One more leaves, unless all have left already.
    show c.ledger.accepted.drop (min (c.ledger.departures + 1) c.ledger.accepted.length) =
      c.ring.release.toList
    rw [hlist, ← h.pending, List.tail_drop]
    by_cases hlt : c.ledger.departures < c.ledger.accepted.length
    · rw [Nat.min_eq_left hlt]
    · rw [Nat.min_eq_right (by omega), List.drop_eq_nil_iff.2 (Nat.le_refl _),
        List.drop_eq_nil_iff.2 (by omega)]
  · show List.Forall₂ _ c.ledger.reported (reportedIn c.acts ++ [])
    rw [List.append_nil]
    exact h.told
  · intro n others hn
    show n ∈ c.ledger.looks ↔ n ∈ c.ledger.reported ∨ (∃ x, Stage.looking = .holding x ∧ _) ∨ others
    rw [hn, hstage]
    simp
  · show c.ledger.looks.length + _ = _
    simp [Worker.taken, hstage, Stage.busy]
  · -- A release that found nothing still counts as handled.
    show min (c.ledger.departures + 1) c.ledger.accepted.length + (c.workers i).handled ≤
      c.ledger.departures + ((c.workers i).handled + 1)
    have hmin := Nat.min_le_left (c.ledger.departures + 1) c.ledger.accepted.length
    omega

/-- A worker that returns leaves everything as it is. -/
theorem Tracked.finish (h : c.Tracked) (hstage : (c.workers i).stage = .looking) (log : Log) :
    (c.takeOver i ⟨c.ring, { c.workers i with stage := .finished, log },
      [.returned (c.workers i).handled]⟩).Tracked := by
  refine h.of_work rfl rfl rfl h.valid h.bounded rfl h.departures_le h.pending
    (fun _ _ => rfl) nofun ?_ ?_ ?_ (Nat.le_refl _)
  · show List.Forall₂ _ c.ledger.reported (reportedIn c.acts ++ [])
    rw [List.append_nil]
    exact h.told
  · intro n others hn
    show n ∈ c.ledger.looks ↔
      n ∈ c.ledger.reported ∨ (∃ x, Stage.finished = .holding x ∧ _) ∨ others
    rw [hn, hstage]
    simp
  · show c.ledger.looks.length + _ = _
    simp [Worker.taken, hstage, Stage.busy]

/-! ### Every step -/

/-- The producer's steps and those of one worker, each with what it leaves pending. -/
theorem tracked_step (sinks : Fin k → Sink σ) (h : c.Tracked) (t : Turn k) :
    (c.step sinks t).Tracked := by
  cases t with
  | push suppress s =>
    have hv := Ring.valid_push h.valid suppress s
    have hmode : (c.ring.push suppress s).1.overflow = .dropNew :=
      (Ring.push_keeps c.ring suppress s).1.trans h.bounded
    show Tracked { c with
      ring := (c.ring.push suppress s).1
      deeds := c.deeds ++ [⟨none, .pushed s (c.ring.push suppress s).2⟩] }
    -- A duplicate, no room, or a store: nothing is evicted where new sightings are dropped.
    rcases h.valid.push_cases suppress s with
      ⟨ho, hlist⟩ | ⟨ho, -, hlist⟩ | ⟨ho, hlist⟩ | ⟨-, hevict, -, -⟩
    · rw [ho]
      exact h.of_unseen hv hmode hlist rfl rfl rfl
    · rw [ho]
      exact h.of_unseen hv hmode hlist rfl rfl rfl
    · rw [ho]
      exact h.of_producer hv hmode hlist rfl rfl rfl
    · rw [h.bounded] at hevict
      cases hevict
  | close => exact h.of_unseen (Ring.valid_close h.valid) h.bounded rfl rfl rfl rfl
  | work i =>
    rw [step_work]
    have heffect := Handover.step_effect (sinks i) (h := c.seenBy i) h.valid .work
    generalize (c.seenBy i).step (sinks i) .work = after at heffect
    cases heffect with
    | rests =>
      rw [takeOver_self]
      exact h
    | looks s hstage hhead => exact h.look hstage hhead
    | reports s hstage => exact h.report hstage _ _ _
    | releases hstage hlist => exact h.release hstage hlist
    | returns hstage hlist hclosed => exact h.finish hstage _

theorem tracked_run (sinks : Fin k → Sink σ) (h : c.Tracked) (ts : List (Turn k)) :
    (c.run sinks ts).Tracked := by
  -- By induction on the turns.
  induction ts generalizing c with
  | nil => exact h
  | cons t ts ih => exact ih (tracked_step sinks h t)

end Crew

end LanWatch
