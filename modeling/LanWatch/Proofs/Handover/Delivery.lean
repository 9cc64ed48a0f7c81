import LanWatch.Proofs.Handover.Hearing
import LanWatch.Proofs.Handover.Steps

namespace LanWatch

/-!
# Delivery in order

Where a sighting that finds no room is dropped, nothing but the worker takes sightings out of the
slots. So what the worker looked at is still the oldest when it comes to release it, and the sink is
given what was stored: in order, each once.

* `Stage.ahead` — by how much the reports are ahead of the releases;
* `Handover.InOrder` — how the history of stores, the history of reports, the pending sightings and
  the worker's place in its loop belong together;
* `Handover.inOrder_step` — no step breaks that;
* `Handover.reports_follow_stores` — what follows for every run, for the sink, and for the moment
  when the worker returns.
-/

/-- How many more sightings a worker has reported than it has released. -/
def Stage.ahead : Stage → Nat
  | releasing => 1
  | looking | holding _ | finished => 0

namespace Handover

variable {σ : Type}

/-! ### The invariant -/

/-- The pending sightings are those that were stored and not yet released, and the sink was given
    those that were released, and one more between report and release. -/
structure InOrder (h : Handover σ) : Prop where
  bounded : h.ring.overflow = .dropNew
  handled_eq : h.worker.handled = releasesIn h.acts
  releases_le : releasesIn h.acts ≤ (storedIn h.acts).length
  pending : (storedIn h.acts).drop (releasesIn h.acts) = h.ring.toList
  told : reportedIn h.acts =
    (storedIn h.acts).take (releasesIn h.acts + h.worker.stage.ahead)
  /-- What the worker has a copy of is still the oldest. -/
  held : ∀ s, h.worker.stage = .holding s → h.ring.toList.head? = some s
  unreleased : h.worker.stage = .releasing → h.ring.toList ≠ []

/-- With a sighting pending, fewer were released than stored. -/
theorem InOrder.releases_lt {h : Handover σ} (hi : h.InOrder) (hne : h.ring.toList ≠ []) :
    releasesIn h.acts < (storedIn h.acts).length := by
  have hpos := List.length_pos_iff.2 hne
  rw [← hi.pending, List.length_drop] at hpos
  omega

/-- A worker that is ahead is ahead of something. -/
theorem InOrder.ahead_le {h : Handover σ} (hi : h.InOrder) :
    releasesIn h.acts + h.worker.stage.ahead ≤ (storedIn h.acts).length := by
  cases hstage : h.worker.stage with
  | releasing => exact hi.releases_lt (hi.unreleased hstage)
  | looking => exact hi.releases_le
  | holding s => exact hi.releases_le
  | finished => exact hi.releases_le

/-- Before the first turn nothing is stored, reported or released. -/
theorem inOrder_start {r : Ring} (hbounded : r.overflow = .dropNew) (hlist : r.toList = [])
    (state : σ) : (start r state).InOrder where
  bounded := hbounded
  handled_eq := rfl
  releases_le := Nat.le_refl 0
  pending := hlist.symm
  told := rfl
  held s hs := by cases hs
  unreleased hs := by cases hs

/-- A step that no history shows, and that leaves the pending sightings as they are. -/
theorem InOrder.of_unseen {h h' : Handover σ} (hi : h.InOrder)
    (hbounded : h'.ring.overflow = .dropNew) {a : Act} (hacts : h'.acts = h.acts ++ [a])
    (hstored : storedIn [a] = []) (hreported : reportedIn [a] = [])
    (hreleases : releasesIn [a] = 0) (hhandled : h'.worker.handled = h.worker.handled)
    (hahead : h'.worker.stage.ahead = h.worker.stage.ahead)
    (hlist : h'.ring.toList = h.ring.toList)
    (hheld : ∀ s, h'.worker.stage = .holding s → h'.ring.toList.head? = some s)
    (hunreleased : h'.worker.stage = .releasing → h'.ring.toList ≠ []) : h'.InOrder := by
  -- The act enters none of the three lists that the invariant speaks of.
  have hs : storedIn h'.acts = storedIn h.acts := by
    rw [hacts, storedIn_concat_of_nil hstored]
  have hr : reportedIn h'.acts = reportedIn h.acts := by
    rw [hacts, reportedIn_concat_of_nil hreported]
  have hc : releasesIn h'.acts = releasesIn h.acts := by
    rw [hacts, releasesIn_concat, hreleases, Nat.add_zero]
  constructor
  · exact hbounded
  · rw [hhandled, hc]
    exact hi.handled_eq
  · rw [hc, hs]
    exact hi.releases_le
  · rw [hs, hc, hlist]
    exact hi.pending
  · rw [hr, hs, hc, hahead]
    exact hi.told
  · exact hheld
  · exact hunreleased

/-- A store adds to the stored and to the pending sightings alike. -/
theorem InOrder.store {h : Handover σ} (hi : h.InOrder) {ring : Ring} {s : Sighting}
    (hbounded : ring.overflow = .dropNew) (hlist : ring.toList = h.ring.toList ++ [s]) :
    ({ h with ring, acts := h.acts ++ [.pushed s .stored] } : Handover σ).InOrder := by
  have hs : storedIn (h.acts ++ [.pushed s .stored]) = storedIn h.acts ++ [s] := storedIn_concat _ _
  have hr : reportedIn (h.acts ++ [.pushed s .stored]) = reportedIn h.acts :=
    reportedIn_concat_of_nil rfl
  have hc : releasesIn (h.acts ++ [.pushed s .stored]) = releasesIn h.acts := releasesIn_concat _ _
  have hle := hi.ahead_le
  constructor
  · exact hbounded
  · rw [hc]
    exact hi.handled_eq
  · rw [hc, hs, List.length_append]
    exact Nat.le_add_right_of_le hi.releases_le
  · -- The new sighting comes last in both lists.
    rw [hs, hc, hlist, List.drop_append_of_le_length hi.releases_le, hi.pending]
  · rw [hr, hs, hc, List.take_append_of_le_length hle]
    exact hi.told
  · -- The sighting in hand stays the oldest one.
    intro x hx
    rw [hlist, List.head?_append, hi.held x hx]
    rfl
  · intro _
    rw [hlist]
    exact List.append_ne_nil_of_right_ne_nil _ (List.cons_ne_nil s [])

/-- A report goes on where the reports so far ended. -/
theorem InOrder.report {h : Handover σ} (hi : h.InOrder) {s : Sighting}
    (hstage : h.worker.stage = .holding s) (state : σ) (log : Log) (error : Option SinkError) :
    ({ h with
      worker := { h.worker with stage := .releasing, state, log }
      acts := h.acts ++ [.reported s error] } : Handover σ).InOrder := by
  have hs : storedIn (h.acts ++ [.reported s error]) = storedIn h.acts := storedIn_concat_of_nil rfl
  have hr : reportedIn (h.acts ++ [.reported s error]) = reportedIn h.acts ++ [s] :=
    reportedIn_concat _ _
  have hc : releasesIn (h.acts ++ [.reported s error]) = releasesIn h.acts := releasesIn_concat _ _
  have hhead := hi.held s hstage
  have htold := hi.told
  rw [hstage] at htold
  constructor
  · exact hi.bounded
  · rw [hc]
    exact hi.handled_eq
  · rw [hc, hs]
    exact hi.releases_le
  · rw [hs, hc]
    exact hi.pending
  · -- The next of the stored sightings is the oldest pending one, which is the one reported.
    have hnext : (storedIn h.acts)[releasesIn h.acts]? = some s := by
      rw [← List.head?_drop, hi.pending, hhead]
    rw [hr, hs, hc, htold]
    show _ = (storedIn h.acts).take (releasesIn h.acts + 1)
    rw [List.take_add_one, hnext]
    rfl
  · intro x hx
    cases hx
  · intro _ hnil
    -- The sighting in hand is still in its slot.
    have hnil : h.ring.toList = [] := hnil
    rw [hnil] at hhead
    cases hhead

/-- A release takes the sighting that was just reported. -/
theorem InOrder.release {h : Handover σ} (hi : h.InOrder) {ring : Ring}
    (hbounded : ring.overflow = .dropNew) (hstage : h.worker.stage = .releasing)
    (hlist : ring.toList = h.ring.toList.tail) :
    ({ ring
       worker := { h.worker with stage := .looking, handled := h.worker.handled + 1 }
       acts := h.acts ++ [.released] } : Handover σ).InOrder := by
  have hs : storedIn (h.acts ++ [.released]) = storedIn h.acts := storedIn_concat_of_nil rfl
  have hr : reportedIn (h.acts ++ [.released]) = reportedIn h.acts := reportedIn_concat_of_nil rfl
  have hc : releasesIn (h.acts ++ [.released]) = releasesIn h.acts + 1 := releasesIn_concat _ _
  have htold := hi.told
  rw [hstage] at htold
  constructor
  · exact hbounded
  · rw [hc]
    -- Handled and released grow together.
    show h.worker.handled + 1 = _
    rw [hi.handled_eq]
  · rw [hc, hs]
    exact hi.releases_lt (hi.unreleased hstage)
  · rw [hs, hc, hlist, ← hi.pending, List.tail_drop]
  · rw [hr, hs, hc]
    -- What was ahead of the releases is released now, so the reports are the same list.
    exact htold
  · intro x hx
    cases hx
  · intro hx
    cases hx

/-- Every turn keeps the order. As long as nothing is evicted, what the worker holds stays the
    oldest. -/
theorem inOrder_step (sink : Sink σ) (h : Handover σ) (t : Turn) (hv : h.ring.Valid)
    (hi : h.InOrder) : (h.step sink t).InOrder := by
  -- One case for each way that a step can go.
  have hmode : (h.step sink t).ring.overflow = .dropNew := by
    rw [overflow_step]
    exact hi.bounded
  have heffect := step_effect sink hv t
  generalize h.step sink t = h' at hmode heffect
  cases heffect with
  | rests => exact hi
  | passes suppress s outcome hout ho hlist =>
    refine hi.of_unseen hmode rfl ?_ rfl rfl rfl rfl hlist ?_ ?_
    · rcases ho with rfl | rfl <;> rfl
    · intro x hx
      rw [← hi.held x hx]
      exact congrArg List.head? hlist
    · intro hx hnil
      exact hi.unreleased hx (hlist.symm.trans hnil)
  | stores suppress s hout hlist => exact hi.store hmode hlist
  | evicts suppress s hout hevict hne hlist =>
    rw [hi.bounded] at hevict
    cases hevict
  | closes => exact hi.of_unseen hmode rfl rfl rfl rfl rfl rfl rfl hi.held hi.unreleased
  | looks s hstage hhead =>
    refine hi.of_unseen hmode rfl rfl rfl rfl rfl ?_ rfl ?_ ?_
    · rw [hstage]
      rfl
    · intro x hx
      cases hx
      exact hhead
    · intro hx
      cases hx
  | reports s hstage => exact hi.report hstage _ _ _
  | releases hstage hlist => exact hi.release hmode hstage hlist
  | returns hstage hlist hclosed =>
    refine hi.of_unseen hmode rfl rfl rfl rfl rfl ?_ rfl ?_ ?_
    · rw [hstage]
      rfl
    · intro x hx
      cases hx
    · intro hx
      cases hx

/-! ### What follows for every run -/

/-- After every run of steps in any order, the sink has the state and gave the answers that come of
    the reported sightings; these are the first of the stored sightings, in the order of their stores
    and each once; everything that was released was reported before; and the stored sightings that
    were not yet released are the pending ones, in order. A worker that says that it returns `n`
    returns, being done with `n` sightings. Then the slots are closed and empty, and all sightings
    stored until then, which are `n`, were reported. -/
theorem reports_follow_stores (sink : Sink σ) (state : σ) {capacity : Nat} (hcap : 2 ≤ capacity) :
    (∀ memory, Ring.Fits capacity memory →
      Ring.create capacity .dropNew memory = .ok (.empty capacity .dropNew)) ∧
    ∀ (turns : List Turn) (h : Handover σ),
      h = (start (.empty capacity .dropNew) state).run sink turns →
        h.worker.state = (sink.reportAll state (reportedIn h.acts)).1 ∧
        answersIn h.acts = (sink.reportAll state (reportedIn h.acts)).2.1 ∧
        reportedIn h.acts <+: storedIn h.acts ∧
        releasesIn h.acts ≤ (reportedIn h.acts).length ∧
        (storedIn h.acts).drop (releasesIn h.acts) = h.ring.toList ∧
        ∀ (t : Turn) (n : Nat),
          ((h.step sink t).acts = h.acts ++ [.returned n] ↔
            h.worker.stage ≠ .finished ∧ (h.step sink t).worker.stage = .finished ∧
              (h.step sink t).worker.handled = n) ∧
          ((h.step sink t).acts = h.acts ++ [.returned n] →
            (h.step sink t).ring.closed = true ∧ (h.step sink t).ring.toList = [] ∧
              n = (storedIn h.acts).length ∧ reportedIn h.acts = storedIn h.acts) := by
  refine ⟨fun _ => Ring.create_eq_empty hcap .dropNew, ?_⟩
  rintro turns h rfl
  have hlist : (Ring.empty capacity .dropNew).toList = [] :=
    congrArg Queue.items (Ring.toQueue_empty capacity .dropNew)
  have hvalid := Ring.valid_empty hcap .dropNew
  have hv := valid_run sink (h := start (.empty capacity .dropNew) state) hvalid turns
  have hi := run_induction sink InOrder turns (fun h t _ => inOrder_step sink h t) hvalid
    (inOrder_start rfl hlist state)
  have hheard := hears_run sink (.empty capacity .dropNew) state turns
  refine ⟨hheard.state_eq, hheard.answers_eq, ?_, ?_, hi.pending, fun t n => ⟨?_, ?_⟩⟩
  · rw [hi.told]
    exact List.take_prefix _ _
  · have hle := hi.ahead_le
    rw [hi.told, List.length_take]
    omega
  · exact returns_iff sink hv
  · intro hn
    obtain ⟨hworking, hfinished, rfl⟩ := (returns_iff sink hv).1 hn
    obtain ⟨hstage, hnil, hclosed, hhandled, hring⟩ := returns_of_finished sink hv hworking hfinished
    -- Nothing is pending, so everything that was stored was released.
    have hpending := hi.pending
    rw [hnil, List.drop_eq_nil_iff] at hpending
    have hall : releasesIn _ = (storedIn _).length := Nat.le_antisymm hi.releases_le hpending
    rw [hring, hhandled]
    refine ⟨hclosed, hnil, hi.handled_eq.trans hall, ?_⟩
    rw [hi.told, hstage]
    exact List.take_of_length_le hpending

/-- Two slots, and a sink that fails for the first sighting. The second finds no room, and the third
    is all that the sink keeps. -/
theorem reports_follow_stores_with_two_slots :
    let sink : Sink (List Sighting) := Sink.collect (some ⟨2, 0, 0, 0, 0, 1⟩)
    let first : Sighting := .unknown ⟨2, 0, 0, 0, 0, 1⟩ .epoch none
    let third : Sighting := .unknown ⟨2, 0, 0, 0, 0, 3⟩ .epoch none
    let turns : List Turn :=
      [.work, .push false first, .work, .push false (.unknown ⟨2, 0, 0, 0, 0, 2⟩ .epoch none),
        .work, .work, .push false third, .close, .work, .work, .work]
    ∃ r, Ring.create 2 .dropNew = .ok r ∧
      ∃ h, h = (start r []).run sink turns ∧
        (h.step sink .work).acts = h.acts ++ [.returned 2] ∧
        storedIn h.acts = [first, third] ∧ reportedIn h.acts = storedIn h.acts ∧
        h.worker.state = [third] ∧ answersIn h.acts = [some (.io (.failure "disk full")), none] := by
  intro sink first third turns
  obtain ⟨hcreate, hall⟩ := reports_follow_stores sink [] (show 2 ≤ 2 by decide)
  refine ⟨_, hcreate _ (by decide), _, rfl, by decide, by decide, ?_⟩
  obtain ⟨hstate, hanswers, -, -, -, hreturned⟩ := hall turns _ rfl
  have hreported := ((hreturned .work 2).2 (by decide)).2.2.2
  refine ⟨hreported, ?_, ?_⟩
  · rw [hstate, hreported]
    decide
  · rw [hanswers, hreported]
    decide

end Handover

end LanWatch
