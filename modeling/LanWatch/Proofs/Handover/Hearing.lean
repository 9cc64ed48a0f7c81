import LanWatch.Report.Handover

namespace LanWatch

/-!
# What a sink hears

The acts of a worker tell which sightings its sink was given, and what the sink answered to each. The
sink itself keeps a state. Both are one story: the state is what the sink makes of these sightings,
one after another, and its answers are those that the acts tell. So whoever knows the acts knows what
became of the sink, and what is proved of the reports in them is proved of the sink.

* `Sink.Hears` — acts that tell what took a sink from one state to another;
* `Sink.Hears.append` — what follows on acts goes on where they have left the sink;
* `Worker.step_hears` — the next step of a worker;
* `Handover.hears_step`, `Handover.hears_run` — any step, and any order of steps.
-/

/-- The acts tell what took the sink from one state to another: it was given the sightings that are
    reported in them, in order, and it answered what they say. -/
structure Sink.Hears {σ : Type} (sink : Sink σ) (before : σ) (acts : List Act) (after : σ) :
    Prop where
  state_eq : after = (sink.reportAll before (reportedIn acts)).1
  answers_eq : answersIn acts = (sink.reportAll before (reportedIn acts)).2.1

variable {σ : Type} {sink : Sink σ}

namespace Sink.Hears

variable {before between after : σ} {acts more : List Act} {a : Act}

/-- No acts, and nothing heard. -/
theorem nil (state : σ) : sink.Hears state [] state := ⟨rfl, rfl⟩

/-- An act that is no report leaves the sink as it is. -/
theorem unheard (hreported : reportedIn [a] = []) (hanswers : answersIn [a] = []) (state : σ) :
    sink.Hears state [a] state := by
  constructor
  · rw [hreported]
    rfl
  · rw [hreported, hanswers]
    rfl

/-- What follows on acts goes on where they have left the sink. -/
theorem append (h : sink.Hears before acts between) (h' : sink.Hears between more after) :
    sink.Hears before (acts ++ more) after := by
  have hreported : reportedIn (acts ++ more) = reportedIn acts ++ reportedIn more :=
    List.filterMap_append
  have hanswers : answersIn (acts ++ more) = answersIn acts ++ answersIn more :=
    List.filterMap_append
  constructor
  · rw [hreported, reportAll_append]
    simp only [← h.state_eq]
    exact h'.state_eq
  · rw [hreported, hanswers, reportAll_append, h.answers_eq, h'.answers_eq]
    simp only [← h.state_eq]

end Sink.Hears

/-- A worker gives the sink the sighting that it holds, and keeps what the sink makes of it. All its
    other steps pass the sink by. -/
theorem Worker.step_hears {w w' : Worker σ} {r r' : Ring} {a : Act}
    (h : w.step sink r = some (r', w', a)) : sink.Hears w.state [a] w'.state := by
  unfold Worker.step at h
  cases hstage : w.stage with
  | looking =>
    rw [hstage] at h
    -- It gets a sighting, returns, or waits.
    rcases hawait : r.await with s | - | -
    · simp only [hawait, Option.some.injEq, Prod.mk.injEq] at h
      obtain ⟨-, rfl, rfl⟩ := h
      exact .unheard rfl rfl _
    · simp only [hawait, Option.some.injEq, Prod.mk.injEq] at h
      obtain ⟨-, rfl, rfl⟩ := h
      exact .unheard rfl rfl _
    · simp [hawait] at h
  | holding s =>
    -- The only step at which the sink is called: once, and with the copy that the worker holds.
    simp only [hstage, Option.some.injEq, Prod.mk.injEq] at h
    obtain ⟨-, rfl, rfl⟩ := h
    exact ⟨rfl, rfl⟩
  | releasing =>
    simp only [hstage, Option.some.injEq, Prod.mk.injEq] at h
    obtain ⟨-, rfl, rfl⟩ := h
    exact .unheard rfl rfl _
  | finished => simp [hstage] at h

namespace Handover

variable {h : Handover σ} {state : σ}

/-- Whoever takes the step, the acts go on telling what the sink has heard. -/
theorem hears_step (hi : sink.Hears state h.acts h.worker.state) (t : Turn) :
    sink.Hears state (h.step sink t).acts (h.step sink t).worker.state := by
  cases t with
  | push suppress s => exact hi.append (.unheard rfl rfl _)
  | close => exact hi.append (.unheard rfl rfl _)
  | work =>
    simp only [step]
    cases hstep : h.worker.step sink h.ring with
    | none => exact hi
    | some next => exact hi.append (Worker.step_hears hstep)

theorem hears_run (sink : Sink σ) (r : Ring) (state : σ) (turns : List Turn) :
    sink.Hears state ((start r state).run sink turns).acts
      ((start r state).run sink turns).worker.state := by
  -- By induction on the turns, from slots at which nothing was done yet.
  suffices h : ∀ h : Handover σ, sink.Hears state h.acts h.worker.state →
      sink.Hears state (h.run sink turns).acts (h.run sink turns).worker.state from h _ (.nil state)
  induction turns with
  | nil => exact fun _ hi => hi
  | cons t turns ih => exact fun h hi => ih (h.step sink t) (hears_step hi t)

end Handover

end LanWatch
