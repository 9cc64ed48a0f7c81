import LanWatch.Session.Tandem

namespace LanWatch

/-!
# Where a producer gets to in its source

A producer makes one request after another, and none after the one at which the loop halts. What it
returns then tells whether the flag was clear or the source closed, or which error ended the
capture.

* `Source.EndsAt` — the request at which the loop halts;
* `Producer.Follows` — where a producer stands in its source;
* `Producer.Follows.ask` — a request moves it on by one answer, or is the last one;
* `Producer.Follows.returned_error_iff` — the error that it returns, in terms of the source alone.
-/

variable {σ : Type} {source : Source σ} {state : σ} {signals : Signals}

/-- The loop halts at request `k`, and at none before. -/
structure Source.EndsAt (source : Source σ) (state : σ) (signals : Signals) (k : Nat) : Prop where
  halts : source.Halts state signals k
  first : ∀ j < k, ¬source.Halts state signals j

/-- If a source ended at two requests, it would have ended before the later one. -/
theorem Source.EndsAt.unique {k k' : Nat} (h : source.EndsAt state signals k)
    (h' : source.EndsAt state signals k') : k = k' := by
  rcases Nat.lt_trichotomy k k' with hlt | heq | hgt
  · exact absurd h.halts (h'.first k hlt)
  · exact heq
  · exact absurd h'.halts (h.first k' hgt)

namespace Producer

variable {p : Producer σ}

/-- A producer that has not returned has got answers that were not final. One that has returned has
    made the request at which the loop halts, or found the flag clear before it. -/
structure Follows (source : Source σ) (state : σ) (signals : Signals) (p : Producer σ) : Prop where
  state_eq : p.stage.hasReturned = false → p.state = source.after state p.reads
  not_halted : p.stage.hasReturned = false → ∀ j < p.reads, ¬source.Halts state signals j
  returned : ∀ result, p.stage = .returned result → ∃ k, source.EndsAt state signals k ∧
    result = (source.failure? state signals k).elim (.ok p.summary) .error

theorem follows_start : (start source state).Follows source state signals where
  state_eq _ := rfl
  not_halted _ _ hj := absurd hj (Nat.not_lt_zero _)
  returned _ hresult := by cases hresult

/-- A producer goes on from one place between two requests to another. -/
theorem Follows.of_between (h : p.Follows source state signals)
    (hunder : p.stage.hasReturned = false) {p' : Producer σ} (hstate : p'.state = p.state)
    (hreads : p'.reads = p.reads) (hunder' : p'.stage.hasReturned = false) :
    p'.Follows source state signals where
  state_eq _ := by
    rw [hstate, hreads]
    exact h.state_eq hunder
  not_halted _ := by
    rw [hreads]
    exact h.not_halted hunder
  returned result hresult := by
    rw [hresult] at hunder'
    cases hunder'

/-- A producer that returns at the request which it is about to make. -/
theorem Follows.of_returned (h : p.Follows source state signals)
    (hunder : p.stage.hasReturned = false) (hhalts : source.Halts state signals p.reads)
    {p' : Producer σ} {result : Except CaptureError Summary} (hstage : p'.stage = .returned result)
    (hresult : result = (source.failure? state signals p.reads).elim (.ok p'.summary) .error) :
    p'.Follows source state signals where
  state_eq hunder' := by
    rw [hstage] at hunder'
    cases hunder'
  not_halted hunder' := by
    rw [hstage] at hunder'
    cases hunder'
  returned result' hresult' := by
    rw [hstage] at hresult'
    cases hresult'
    exact ⟨p.reads, ⟨hhalts, h.not_halted hunder⟩, hresult⟩

/-- An answer that is not final moves the producer on by one request. -/
theorem Follows.of_answered (h : p.Follows source state signals) (hstage : p.stage = .asking)
    (hrunning : signals.running p.reads = true)
    (hopen : (source.answer state p.reads).isFinal = false) {p' : Producer σ}
    (hstate : p'.state = (source.read p.state).2) (hreads : p'.reads = p.reads + 1)
    (hunder : p'.stage.hasReturned = false) : p'.Follows source state signals where
  state_eq _ := by
    rw [hstate, hreads, h.state_eq (by rw [hstage]; rfl)]
    rfl
  not_halted _ j hj := by
    rw [hreads] at hj
    -- The request just answered, or one of those before it.
    by_cases hlast : j = p.reads
    · subst hlast
      rw [Source.Halts, hrunning, hopen]
      simp
    · exact h.not_halted (by rw [hstage]; rfl) j (by omega)
  returned result hresult := by
    rw [hresult] at hunder
    cases hunder

/-- A request, one case for each answer. -/
theorem Follows.ask (h : p.Follows source state signals) (hstage : p.stage = .asking)
    (policy : VlanPolicy) : (p.ask source signals policy).Follows source state signals := by
  have hunder : p.stage.hasReturned = false := by
    rw [hstage]
    rfl
  have hread : (source.read p.state).1 = source.answer state p.reads := by
    rw [h.state_eq hunder]
    rfl
  unfold Producer.ask
  split
  case isFalse hclear =>
    -- The flag is clear, so the loop halts without a request.
    have hclear : signals.running p.reads = false := Bool.eq_false_iff.2 hclear
    refine h.of_returned hunder (.inl hclear) rfl ?_
    rw [Source.failure?, hclear]
    rfl
  case isTrue hrunning =>
    have hfailure : source.failure? state signals p.reads =
        (source.answer state p.reads).error? := if_pos hrunning
    simp only [deal, hread]
    cases hanswer : source.answer state p.reads with
    | frame f => exact h.of_answered hstage hrunning (by rw [hanswer]; rfl) rfl rfl rfl
    | idle => exact h.of_answered hstage hrunning (by rw [hanswer]; rfl) rfl rfl rfl
    | closed | failed e | died =>
      refine h.of_returned hunder (.inr (by rw [hanswer]; rfl)) rfl ?_
      rw [hfailure, hanswer]
      rfl

/-- The error that a producer returns is the one that ends the loop. -/
theorem Follows.returned_error_iff (h : p.Follows source state signals)
    {result : Except CaptureError Summary} (hresult : p.stage = .returned result)
    (e : CaptureError) :
    result = .error e ↔
      ∃ k, source.EndsAt state signals k ∧ source.failure? state signals k = some e := by
  obtain ⟨k, hends, heq⟩ := h.returned result hresult
  constructor
  · rintro rfl
    refine ⟨k, hends, ?_⟩
    cases hfailure : source.failure? state signals k with
    | none =>
      rw [hfailure] at heq
      cases heq
    | some e' =>
      rw [hfailure] at heq
      cases heq
      rfl
  · rintro ⟨k', hends', hfailure⟩
    obtain rfl := hends.unique hends'
    rw [heq, hfailure]
    rfl

end Producer

end LanWatch
