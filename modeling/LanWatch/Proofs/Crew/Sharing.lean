import LanWatch.Proofs.Crew.Numbers

namespace LanWatch.Crew

/-!
# Workers that share the slots

As long as at most one worker is busy, the workers together do what one worker does: they look at
the sightings in the order of their numbers, each once. As soon as one looks while another is busy,
it looks at the same sighting again. Then two slots are released for it, and the numbers cannot come
out even any more: some sighting is never looked at, or some slot is released that holds none.

* `Exclusive` — what was looked at while at most one worker was busy;
* `exclusive_step` — a step keeps that, or a worker looks at a sighting again;
* `takesTurns_or_looks_again` — a sighting is looked at again exactly if the workers do not take
  turns;
* `Tracked.all_reported_iff`, `nothing_pending_of_finished` — what workers leave that have returned;
* `all_reported_iff_takesTurns` — what is lost when all the workers have returned;
* `sighting_lost_with_two_workers` — two workers and two sightings, one of them lost.
-/

variable {σ : Type} {k : Nat} {c : Crew σ k}

/-! ### One at a time -/

/-- At most one worker was busy so far, and so the numbers of the sightings that were looked at are
    the first ones, in order. -/
structure Exclusive (c : Crew σ k) : Prop where
  alone : c.Alone
  idle : (∀ i, (c.workers i).stage.busy = false) →
    c.ledger.looks = List.range c.ledger.departures
  busy : ∀ i, (c.workers i).stage.busy = true →
    c.ledger.looks = List.range (c.ledger.departures + 1) ∧
      c.ledger.departures < c.ledger.accepted.length

theorem exclusive_start (r : Ring) (states : Fin k → σ) : (start r states).Exclusive where
  alone _ _ hi := by cases hi
  idle _ := rfl
  busy _ hi := by cases hi

/-- A step at which every worker stays busy or idle, and nobody looks and nothing leaves. -/
theorem Exclusive.of_same (he : c.Exclusive) {c' : Crew σ k}
    (hbusy : ∀ j, (c'.workers j).stage.busy = (c.workers j).stage.busy)
    (hlooks : c'.ledger.looks = c.ledger.looks)
    (hdepartures : c'.ledger.departures = c.ledger.departures)
    (hle : c.ledger.accepted.length ≤ c'.ledger.accepted.length) : c'.Exclusive where
  -- The three clauses read the stages, the looks and the departures only.
  alone i j hi hj := by
    rw [hbusy] at hi hj
    exact he.alone i j hi hj
  idle hidle := by
    rw [hlooks, hdepartures]
    exact he.idle fun i => (hbusy i).symm.trans (hidle i)
  busy i hi := by
    rw [hbusy] at hi
    obtain ⟨hrange, hlt⟩ := he.busy i hi
    rw [hlooks, hdepartures]
    exact ⟨hrange, by omega⟩

variable {i : Fin k} {after : Handover σ}

theorem stage_takeOver_self : ((c.takeOver i after).workers i).stage = after.worker.stage := by
  rw [show (c.takeOver i after).workers i = after.worker from if_pos rfl]

theorem workers_takeOver_of_ne {j : Fin k} (hj : j ≠ i) :
    (c.takeOver i after).workers j = c.workers j := if_neg hj

/-- A worker stays busy or idle, and neither looks nor releases. -/
theorem Exclusive.of_same_work (he : c.Exclusive) {a : Act} (hacts : after.acts = [a])
    (hsame : after.worker.stage.busy = (c.workers i).stage.busy)
    (hlooks : (c.ledger.enter ⟨some i, a⟩).looks = c.ledger.looks)
    (hdepartures : (c.ledger.enter ⟨some i, a⟩).departures = c.ledger.departures)
    (haccepted : (c.ledger.enter ⟨some i, a⟩).accepted = c.ledger.accepted) :
    (c.takeOver i after).Exclusive := by
  rw [← ledger_takeOver hacts] at hlooks hdepartures haccepted
  refine he.of_same (fun j => ?_) hlooks hdepartures (Nat.le_of_eq (by rw [haccepted]))
  by_cases hj : j = i
  · subst hj
    rw [stage_takeOver_self, hsame]
  · rw [workers_takeOver_of_ne hj]

/-- A worker looks while no other one is busy: at the next sighting. -/
theorem Exclusive.look (h : c.Tracked) (he : c.Exclusive)
    (hidle : ∀ j, (c.workers j).stage.busy = false) {s : Sighting}
    (hhead : c.ring.toList.head? = some s) :
    (c.takeOver i ⟨c.ring, { c.workers i with stage := .holding s }, [.looked s]⟩).Exclusive := by
  generalize hafter : (⟨c.ring, { c.workers i with stage := .holding s }, [.looked s]⟩ :
    Handover σ) = after
  have hledger : (c.takeOver i after).ledger = { c.ledger with
      looks := c.ledger.looks ++ [c.ledger.departures]
      looked := fun j => if j = i then c.ledger.departures else c.ledger.looked j } := by
    rw [ledger_takeOver (a := .looked s) (by rw [← hafter])]
    rfl
  -- The one that looks is the only one that is busy.
  have honly : ∀ j, ((c.takeOver i after).workers j).stage.busy = true → j = i := by
    intro j hj
    by_contra hne
    rw [workers_takeOver_of_ne hne, hidle j] at hj
    cases hj
  have hlt : c.ledger.departures < c.ledger.accepted.length := by
    rw [← h.pending, List.head?_drop] at hhead
    exact (List.getElem?_eq_some_iff.1 hhead).1
  constructor
  · intro j j' hj hj'
    rw [honly j hj, honly j' hj']
  · intro hnone
    have hself := hnone i
    rw [stage_takeOver_self, ← hafter] at hself
    cases hself
  · intro j _
    rw [hledger]
    refine ⟨?_, hlt⟩
    show c.ledger.looks ++ [c.ledger.departures] = _
    rw [he.idle hidle, List.range_succ]

/-- A worker looks while another one is busy: at the sighting that the other one has looked at. -/
theorem Exclusive.look_again (he : c.Exclusive) {j : Fin k} (hne : j ≠ i)
    (hbusy : (c.workers j).stage.busy = true) {s : Sighting} :
    ¬(c.takeOver i ⟨c.ring, { c.workers i with stage := .holding s }, [.looked s]⟩).Alone ∧
      ¬(c.takeOver i ⟨c.ring, { c.workers i with stage := .holding s },
        [.looked s]⟩).ledger.looks.Nodup := by
  constructor
  · intro halone
    refine hne (halone j i ?_ ?_)
    · -- The two workers are busy at the same time.
      rw [workers_takeOver_of_ne hne]
      exact hbusy
    · rw [stage_takeOver_self]
      rfl
  · -- They looked at the same number, since nothing left between their looks.
    rw [ledger_takeOver (a := .looked s) rfl]
    show ¬(c.ledger.looks ++ [c.ledger.departures]).Nodup
    rw [(he.busy j hbusy).1, List.nodup_append]
    rintro ⟨-, -, hdisjoint⟩
    exact hdisjoint c.ledger.departures (by simp) c.ledger.departures (by simp) rfl

/-- A worker that is the only one busy releases the slot of the sighting that it looked at. -/
theorem Exclusive.release (he : c.Exclusive) (hstage : (c.workers i).stage = .releasing) :
    (c.takeOver i ⟨c.ring.release,
      { c.workers i with stage := .looking, handled := (c.workers i).handled + 1 },
      [.released]⟩).Exclusive := by
  have hbusy : (c.workers i).stage.busy = true := by
    rw [hstage]
    rfl
  obtain ⟨hrange, hlt⟩ := he.busy i hbusy
  generalize hafter : (⟨c.ring.release,
    { c.workers i with stage := .looking, handled := (c.workers i).handled + 1 }, [.released]⟩ :
    Handover σ) = after
  have hledger : (c.takeOver i after).ledger = { c.ledger with
      departures := min (c.ledger.departures + 1) c.ledger.accepted.length } := by
    rw [ledger_takeOver (a := .released) (by rw [← hafter])]
    rfl
  -- The worker that releases was the only busy one, so no worker is busy afterwards.
  have hnone : ∀ j, ((c.takeOver i after).workers j).stage.busy = false := by
    intro j
    by_cases hj : j = i
    · subst hj
      rw [stage_takeOver_self, ← hafter]
      rfl
    · rw [workers_takeOver_of_ne hj, Bool.eq_false_iff]
      -- Another busy worker would contradict that one worker is busy at a time.
      exact fun hother => hj (he.alone j i hother hbusy)
  constructor
  · intro j _ hj
    rw [hnone j] at hj
    cases hj
  · intro _
    rw [hledger]
    show c.ledger.looks = List.range (min (c.ledger.departures + 1) c.ledger.accepted.length)
    -- The number looked at last is the one that leaves.
    rw [Nat.min_eq_left hlt, hrange]
  · intro j hj
    rw [hnone j] at hj
    cases hj

/-- A step keeps the workers apart, or a worker looks at a sighting again. -/
theorem exclusive_step (sinks : Fin k → Sink σ) (h : c.Tracked) (he : c.Exclusive) (t : Turn k) :
    (c.step sinks t).Exclusive ∨
      ¬(c.step sinks t).Alone ∧ ¬(c.step sinks t).ledger.looks.Nodup := by
  cases t with
  | push suppress s =>
    left
    have hledger : (c.step sinks (.push suppress s)).ledger =
        c.ledger.enter ⟨none, .pushed s (c.ring.push suppress s).2⟩ := ofDeeds_concat c.deeds _
    -- Where new sightings are dropped nothing is evicted, and only an eviction moves the others up.
    have hkept : ∀ o : PushOutcome, o ≠ .evicted →
        (c.ledger.enter ⟨none, .pushed s o⟩).looks = c.ledger.looks ∧
        (c.ledger.enter ⟨none, .pushed s o⟩).departures = c.ledger.departures ∧
        c.ledger.accepted.length ≤ (c.ledger.enter ⟨none, .pushed s o⟩).accepted.length := by
      intro o ho
      cases o <;> simp_all [Ledger.enter]
    have hnone : (c.ring.push suppress s).2 ≠ .evicted := by
      rcases h.valid.push_cases suppress s with ⟨ho, -⟩ | ⟨ho, -⟩ | ⟨ho, -⟩ | ⟨-, hevict, -⟩
      · simp [ho]
      · simp [ho]
      · simp [ho]
      · simp [h.bounded] at hevict
    obtain ⟨hlooks, hdepartures, hle⟩ := hkept _ hnone
    exact he.of_same (fun _ => rfl) (by rw [hledger, hlooks]) (by rw [hledger, hdepartures])
      (by rw [hledger]; exact hle)
  | close =>
    left
    have hledger : (c.step sinks .close).ledger = c.ledger := ofDeeds_concat c.deeds _
    exact he.of_same (fun _ => rfl) (by rw [hledger]) (by rw [hledger])
      (by rw [hledger])
  | work i =>
    rw [step_work]
    have heffect := Handover.step_effect (sinks i) (h := c.seenBy i) h.valid .work
    generalize (c.seenBy i).step (sinks i) .work = after at heffect
    cases heffect with
    | rests =>
      rw [takeOver_self]
      exact .inl he
    | looks s hstage hhead =>
      by_cases hidle : ∀ j, (c.workers j).stage.busy = false
      · exact .inl (he.look h hidle hhead)
      · -- Another one is busy, since the one that looks was not.
        right
        obtain ⟨j, hj⟩ := not_forall.1 hidle
        have hne : j ≠ i := by
          rintro rfl
          refine hj ?_
          rw [show (c.workers j).stage = .looking from hstage]
          rfl
        exact he.look_again hne (Bool.not_eq_false _ ▸ hj)
    | reports s hstage =>
      have hstage : (c.workers i).stage = .holding s := hstage
      exact .inl (he.of_same_work rfl (by rw [hstage]; rfl) rfl rfl rfl)
    | releases hstage hlist => exact .inl (he.release hstage)
    | returns hstage hlist hclosed =>
      have hstage : (c.workers i).stage = .looking := hstage
      exact .inl (he.of_same_work rfl (by rw [hstage]; rfl) rfl rfl rfl)

/-! ### Runs -/

/-- What was looked at stays in the ledger. -/
theorem looks_step (sinks : Fin k → Sink σ) (c : Crew σ k) (t : Turn k) :
    c.ledger.looks <+: (c.step sinks t).ledger.looks := by
  -- An act enters at most one look, at the end.
  have henter : ∀ d, c.ledger.looks <+: (c.ledger.enter d).looks := by
    intro d
    unfold Ledger.enter
    split <;> first | exact List.prefix_refl _ | exact List.prefix_append _ _
  cases t with
  | push suppress s =>
    rw [show (c.step sinks (.push suppress s)).ledger = _ from ofDeeds_concat c.deeds _]
    exact henter _
  | close =>
    rw [show (c.step sinks .close).ledger = _ from ofDeeds_concat c.deeds _]
    exact henter _
  | work i =>
    simp only [step]
    cases (c.workers i).step (sinks i) c.ring with
    | none => exact List.prefix_refl _
    | some next =>
      show _ <+: (Ledger.ofDeeds (c.deeds ++ [⟨some i, next.2.2⟩])).looks
      rw [ofDeeds_concat]
      exact henter _

/-- What was looked at stays in the ledger: by induction on the turns. -/
theorem looks_run (sinks : Fin k → Sink σ) (c : Crew σ k) (ts : List (Turn k)) :
    c.ledger.looks <+: (c.run sinks ts).ledger.looks := by
  induction ts generalizing c with
  | nil => exact List.prefix_refl _
  | cons t ts ih => exact (looks_step sinks c t).trans (ih (c.step sinks t))

/-- Workers take turns if at most one of them is busy now, and they take turns from the next step
    on. -/
theorem takesTurns_cons {sinks : Fin k → Sink σ} {t : Turn k} {ts : List (Turn k)} :
    c.TakesTurns sinks (t :: ts) ↔ c.Alone ∧ (c.step sinks t).TakesTurns sinks ts := by
  constructor
  · intro h
    exact ⟨h [] (List.nil_prefix), fun begun hbegun =>
      h (t :: begun) (List.cons_prefix_cons.2 ⟨rfl, hbegun⟩)⟩
  · rintro ⟨halone, hrest⟩ begun hbegun
    cases begun with
    | nil => exact halone
    | cons t' begun =>
      obtain ⟨rfl, hshorter⟩ := List.cons_prefix_cons.1 hbegun
      exact hrest begun hshorter

/-- Workers that take turns look at each sighting once, and others look at one of them again: by
    induction on the turns, up to the first one at which a worker looks while another is busy. -/
theorem takesTurns_or_looks_again (sinks : Fin k → Sink σ) (h : c.Tracked) (he : c.Exclusive)
    (ts : List (Turn k)) :
    c.TakesTurns sinks ts ∧ (c.run sinks ts).Exclusive ∨
      ¬c.TakesTurns sinks ts ∧ ¬(c.run sinks ts).ledger.looks.Nodup := by
  induction ts generalizing c with
  | nil =>
    left
    refine ⟨fun begun hbegun => ?_, he⟩
    rw [List.prefix_nil.1 hbegun]
    exact he.alone
  | cons t ts ih =>
    rw [takesTurns_cons, run_cons]
    -- Either the turn keeps the workers apart or it is a second look; after a second look the
    -- repetition stays.
    rcases exclusive_step sinks h he t with hnext | ⟨hcrowd, hagain⟩
    · rcases ih (tracked_step sinks h t) hnext with ⟨hturns, hlast⟩ | ⟨hturns, hagain⟩
      · exact .inl ⟨⟨he.alone, hturns⟩, hlast⟩
      · exact .inr ⟨fun hall => hturns hall.2, hagain⟩
    · refine .inr ⟨fun hall => hcrowd (hall.2 [] List.nil_prefix), fun hnodup => hagain ?_⟩
      exact hnodup.sublist (looks_run sinks _ ts).sublist

/-! ### When all have returned -/

/-- With nobody busy, the workers have looked as often as they have released slots. -/
theorem taken_eq_handled (hidle : ∀ i, (c.workers i).stage = .finished) : c.taken = c.handled := by
  unfold taken handled
  congr 1
  refine List.map_congr_left fun i _ => ?_
  simp [Worker.taken, hidle i, Stage.busy]

/-- All sightings were reported and each of them was released once, exactly if none was looked at
    twice: there were as many looks as sightings. -/
theorem Tracked.all_reported_iff (h : c.Tracked)
    (hfinished : ∀ i, (c.workers i).stage = .finished) (hlist : c.ring.toList = [])
    (hexclusive : c.ledger.looks.Nodup → c.ledger.looks = List.range c.ledger.departures) :
    ((∀ n < c.ledger.accepted.length, n ∈ c.ledger.reported) ∧
        c.handled = c.ledger.accepted.length) ↔ c.ledger.looks.Nodup := by
  have hall : c.ledger.departures = c.ledger.accepted.length := by
    have hpending := h.pending
    rw [hlist, List.drop_eq_nil_iff] at hpending
    exact Nat.le_antisymm h.departures_le hpending
  have hlength := h.looks_length
  rw [taken_eq_handled hfinished] at hlength
  -- Nobody holds anything any more.
  have hlooks : ∀ n, n ∈ c.ledger.looks ↔ n ∈ c.ledger.reported := by
    intro n
    rw [h.looks_iff n, or_iff_left]
    rintro ⟨i, s, hs, -⟩
    rw [hfinished i] at hs
    cases hs
  constructor
  · rintro ⟨hreported, hhandled⟩
    have hsub : List.range c.ledger.accepted.length ⊆ c.ledger.looks := fun n hn =>
      (hlooks n).2 (hreported n (List.mem_range.1 hn))
    have hperm := (List.subperm_of_subset List.nodup_range hsub).perm_of_length_le
      (by rw [hlength, hhandled, List.length_range])
    exact hperm.nodup_iff.1 List.nodup_range
  · intro hnodup
    have hrange := hexclusive hnodup
    rw [hall] at hrange
    refine ⟨fun n hn => ?_, ?_⟩
    · rw [← hlooks, hrange]
      exact List.mem_range.2 hn
    · rw [← hlength, hrange, List.length_range]

/-- As long as the slots are open no worker returns. -/
theorem working_while_open (sinks : Fin k → Sink σ) (h : c.Tracked) (hopen : c.ring.closed = false)
    (hworking : ∀ i, (c.workers i).stage ≠ .finished) {before : List (Turn k)}
    (hbefore : .close ∉ before) : ∀ i, ((c.run sinks before).workers i).stage ≠ .finished := by
  induction before generalizing c with
  | nil => exact hworking
  | cons t ts ih =>
    have hrest : .close ∉ ts := fun hmem => hbefore (List.mem_cons_of_mem t hmem)
    have hnext := tracked_step sinks h t
    cases t with
    | push suppress s =>
      exact ih hnext ((Ring.push_keeps c.ring suppress s).2.trans hopen) hworking hrest
    | close => exact absurd List.mem_cons_self hbefore
    | work i =>
      rw [run_cons]
      rw [step_work] at hnext ⊢
      have heffect := Handover.step_effect (sinks i) (h := c.seenBy i) h.valid .work
      have hclosed := Handover.closed_step (sinks i) (c.seenBy i) (t := .work) nofun
      generalize (c.seenBy i).step (sinks i) .work = after at hnext heffect hclosed
      refine ih hnext (hclosed.trans hopen) (fun j => ?_) hrest
      by_cases hj : j = i
      · subst hj
        rw [stage_takeOver_self]
        cases heffect with
        -- To return, the worker would have to find the slots closed.
        | returns hstage hlist hnow => exact absurd hnow (Bool.eq_false_iff.1 hopen)
        | rests => exact hworking j
        | looks | reports | releases => exact Stage.noConfusion
      · rw [workers_takeOver_of_ne hj]
        exact hworking j

/-- Workers that go on without the producer leave nothing pending once one of them has returned: it
    found nothing, and the others only take sightings away. -/
theorem nothing_pending_of_finished (sinks : Fin k → Sink σ) (h : c.Tracked)
    (hfinished : ∀ i, (c.workers i).stage = .finished → c.ring.toList = []) (after : List (Fin k)) :
    ∀ i, ((c.run sinks (after.map .work)).workers i).stage = .finished →
      (c.run sinks (after.map .work)).ring.toList = [] := by
  induction after generalizing c with
  | nil => exact hfinished
  | cons i is ih =>
    rw [List.map_cons, run_cons]
    -- The induction carries that the slots are empty once any worker has finished.
    refine ih (tracked_step sinks h (.work i)) fun j => ?_
    rw [step_work]
    have heffect := Handover.step_effect (sinks i) (h := c.seenBy i) h.valid .work
    generalize (c.seenBy i).step (sinks i) .work = next at heffect
    by_cases hj : j = i
    · subst hj
      rw [stage_takeOver_self]
      cases heffect with
      | rests => exact hfinished j
      -- Only the worker that acts can finish, by an await that found the slots closed and empty.
      | looks | reports | releases => exact nofun
      | returns hstage hlist hclosed => exact fun _ => hlist
    · rw [workers_takeOver_of_ne hj]
      intro hstage
      have hnil := hfinished j hstage
      cases heffect with
      -- For the others the slots were empty before, and a release of empty slots leaves them empty.
      | rests | looks | reports | returns => exact hnil
      | releases hreleasing hlist =>
        show c.ring.release.toList = []
        have hlist : c.ring.release.toList = c.ring.toList.tail := hlist
        rw [hlist, hnil]
        rfl

/-! ### What follows for every run -/

/-- Where a sighting that finds no room is dropped, and any number of workers drain the slots, they
    leave nothing pending once all of them have returned after the close. Each sink has the state
    and gave the answers that come of the sightings that its worker reported. The numbers in the
    ledger are those of the sightings that the sinks were given, and at least as many slots were
    released as sightings were stored. All of them were reported, and no more slots released,
    exactly if the workers took turns: if none of them ever looked at a sighting while another one
    was busy. -/
theorem all_reported_iff_takesTurns (sinks : Fin (k + 1) → Sink σ) (states : Fin (k + 1) → σ)
    {capacity : Nat} (hcap : 2 ≤ capacity) :
    (∀ memory, Ring.Fits capacity memory →
      Ring.create capacity .dropNew memory = .ok (.empty capacity .dropNew)) ∧
    ∀ (before : List (Turn (k + 1))) (after : List (Fin (k + 1))) (c : Crew σ (k + 1)),
      .close ∉ before →
      c = (start (.empty capacity .dropNew) states).run sinks (untilClosed before after) →
      (∀ i, (c.workers i).stage = .finished) →
      c.ring.toList = [] ∧
      (∀ i, (c.workers i).state =
          ((sinks i).reportAll (states i) (reportedIn (c.actsOf i))).1 ∧
        answersIn (c.actsOf i) =
          ((sinks i).reportAll (states i) (reportedIn (c.actsOf i))).2.1) ∧
      c.ledger.accepted = storedIn c.acts ∧
      List.Forall₂ (fun n s => c.ledger.accepted[n]? = some s) c.ledger.reported
        (reportedIn c.acts) ∧
      (storedIn c.acts).length ≤ c.handled ∧
      (((∀ n < (storedIn c.acts).length, n ∈ c.ledger.reported) ∧
          c.handled = (storedIn c.acts).length) ↔
        (start (.empty capacity .dropNew) states).TakesTurns sinks (untilClosed before after)) := by
  refine ⟨fun _ => Ring.create_eq_empty hcap .dropNew, ?_⟩
  rintro before after c hbefore hc hfinished
  have hstart : (start (.empty capacity .dropNew) states).Tracked :=
    tracked_start (Ring.valid_empty hcap .dropNew) rfl
      (congrArg Queue.items (Ring.toQueue_empty capacity .dropNew)) states
  have h := tracked_run sinks hstart (untilClosed before after)
  have hheard := hears_run sinks (.empty capacity .dropNew) states (untilClosed before after)
  have hturns := takesTurns_or_looks_again sinks hstart (exclusive_start _ states)
    (untilClosed before after)
  rw [← hc] at h hheard hturns
  -- All workers returned after the close, when nothing was pending.
  have hlist : c.ring.toList = [] := by
    have hopen := tracked_run sinks hstart before
    have hworking := working_while_open sinks hstart rfl (fun _ => Stage.noConfusion) hbefore
    have hlast := nothing_pending_of_finished sinks (tracked_step sinks hopen .close)
      (fun i hi => absurd hi (hworking i)) after 0
    rw [← run_cons, ← run_append] at hlast
    rw [untilClosed] at hc
    rw [← hc] at hlast
    exact hlast (hfinished 0)
  have hidle : ∀ i, (c.workers i).stage.busy = false := fun i => by
    rw [hfinished i]
    rfl
  have hexclusive : c.ledger.looks.Nodup → c.ledger.looks = List.range c.ledger.departures := by
    intro hnodup
    rcases hturns with ⟨-, he⟩ | ⟨-, hagain⟩
    · exact he.idle hidle
    · exact absurd hnodup hagain
  refine ⟨hlist, fun i => ⟨(hheard i).state_eq, (hheard i).answers_eq⟩, h.accepted_eq, h.told,
    ?_, ?_⟩
  · rw [← h.accepted_eq]
    have hpending := h.pending
    rw [hlist, List.drop_eq_nil_iff] at hpending
    exact Nat.le_trans hpending h.departures_le_handled
  · rw [← h.accepted_eq, h.all_reported_iff hfinished hlist hexclusive]
    constructor
    · intro hnodup
      rcases hturns with ⟨hturns, -⟩ | ⟨-, hagain⟩
      · exact hturns
      · exact absurd hnodup hagain
    · intro htakes
      rcases hturns with ⟨-, he⟩ | ⟨hturns, -⟩
      · rw [he.idle hidle]
        exact List.nodup_range
      · exact absurd htakes hturns

/-- Two workers and two sightings. Each worker reports one of them, the second one before the slots
    are closed. They have taken turns, as can be told from what was reported. -/
theorem all_reported_with_two_workers :
    let before : List (Turn 2) := [.push true (.unknown ⟨2, 0, 0, 0, 0, 1⟩ .epoch none),
      .push true (.unknown ⟨2, 0, 0, 0, 0, 2⟩ .epoch none), .work 1, .work 1, .work 1, .work 0,
      .work 0]
    ∃ r, Ring.create 4 .dropNew = .ok r ∧
      ∃ c, c = (start r fun _ => []).run (fun _ => Sink.collect none)
          (untilClosed before [0, 1, 0]) ∧
        (∀ i, (c.workers i).stage = .finished) ∧ c.ledger.reported = [0, 1] ∧
        (∀ i, (c.workers i).state.length = 1) ∧
        (start r fun _ => []).TakesTurns (fun _ => Sink.collect none)
          (untilClosed before [0, 1, 0]) := by
  intro before
  obtain ⟨hcreate, hall⟩ := all_reported_iff_takesTurns (fun _ : Fin 2 => Sink.collect none)
    (fun _ => []) (show 2 ≤ 4 by decide)
  refine ⟨_, hcreate _ (by decide), _, rfl, by decide, by decide, by decide, ?_⟩
  exact (hall before [0, 1, 0] _ (by decide) rfl (by decide)).2.2.2.2.2.1 (by decide)

/-- Two workers and two sightings. The second worker looks while the first one is busy, and so at
    the same sighting. Both report it, and then they release two slots. The second sighting is never
    reported, although as many slots were released as sightings were stored. -/
theorem sighting_lost_with_two_workers :
    let first : Sighting := .unknown ⟨2, 0, 0, 0, 0, 1⟩ .epoch none
    let second : Sighting := .unknown ⟨2, 0, 0, 0, 0, 2⟩ .epoch none
    ∃ r, Ring.create 4 .dropNew = .ok r ∧
      ∃ c, c = (start r fun _ => []).run (fun _ : Fin 2 => Sink.collect none)
          (untilClosed [.push true first, .push true second, .work 0, .work 1, .work 0, .work 1,
            .work 0, .work 1] [0, 1]) ∧
        (∀ i, (c.workers i).stage = .finished) ∧ c.handled = 2 ∧
        storedIn c.acts = [first, second] ∧ reportedIn c.acts = [first, first] := by
  refine ⟨_, rfl, _, rfl, ?_⟩
  decide

end LanWatch.Crew
