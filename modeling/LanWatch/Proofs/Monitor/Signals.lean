import LanWatch.Proofs.Monitor.Steps

namespace LanWatch.Monitor

/-!
# How often the signal is given

A thread that stored a sighting or closed the slots gives the signal once, after it has given the lock
back. A request that changes nothing for those who wait ends without it.

* `signalsSince_concat` — one act more;
* `Counted` — the threads gave the signal as often as they should have, with one lemma for each way
  that this can go on;
* `Counted.step` — no step breaks that.
-/

variable {ι : Type} [DecidableEq ι]

/-- A call begins the count anew, a signal of the same thread adds to it, and nothing else matters.
    -/
theorem signalsSince_concat (t : ι) (acts : List (Act ι)) (a : Act ι) :
    signalsSince t (acts ++ [a]) = match a with
      | .called u _ => if u = t then 0 else signalsSince t acts
      | .signalled u => if u = t then signalsSince t acts + 1 else signalsSince t acts
      | .returned .. => signalsSince t acts := by
  unfold signalsSince
  rw [List.foldl_append]
  rfl

/-- A thread gives the signal at the end of its request, once, and only if consumers have to be told
    of it. -/
structure Counted (m : Monitor ι) : Prop where
  /-- No thread has given it in the request that it makes now. -/
  current : ∀ t, m.stage t ≠ .idle → signalsSince t m.acts = 0
  owed : ∀ t q reply, m.stage t = .signalling q reply → q.signals reply = true
  past : ∀ before t q reply, before ++ [.returned t q reply] <+: m.acts →
    signalsSince t before = if q.signals reply then 1 else 0

namespace Counted

variable {m m' : Monitor ι}

/-- A thread that makes a request, or is in one, moves on unseen. -/
theorem move (h : m.Counted) {t : ι} {now stage : Stage} (hstage : m.stage t = now)
    (hbusy : now ≠ .idle)
    (howed : ∀ q reply, stage = .signalling q reply → q.signals reply = true) :
    (m.move t stage).Counted where
  current u hu := by
    rw [stage_move] at hu
    split at hu
    case isTrue he =>
      subst he
      exact h.current u (hstage ▸ hbusy)
    case isFalse => exact h.current u hu
  owed u q reply hu := by
    rw [stage_move] at hu
    split at hu
    case isTrue => exact howed q reply hu
    case isFalse => exact h.owed u q reply hu
  past := h.past

/-- A request begins with no signal given. -/
theorem call (h : m.Counted) (t : ι) (q : Keeper.Request) :
    ((m.move t (.entering q)).note (.called t q)).Counted where
  current u hu := by
    have hu : (if u = t then Stage.entering q else m.stage u) ≠ .idle := hu
    show signalsSince u (m.acts ++ [.called t q]) = 0
    rw [signalsSince_concat]
    by_cases he : t = u
    · exact if_pos he
    · rw [if_neg (Ne.symm he)] at hu
      exact (if_neg he).trans (h.current u hu)
  owed u q' reply hu := by
    have hu : (if u = t then Stage.entering q else m.stage u) = .signalling q' reply := hu
    split at hu
    case isTrue => cases hu
    case isFalse => exact h.owed u q' reply hu
  past before u q' reply hpast := by
    rcases List.prefix_concat_iff.1 hpast with heq | hbefore
    · cases (List.append_inj' heq rfl).2
    · exact h.past before u q' reply hbefore

/-- A thread returns, having given the signal as often as it should have. -/
theorem returned (h : m.Counted) {t : ι} {q : Keeper.Request} {reply : Keeper.Reply}
    (hcount : signalsSince t m.acts = if q.signals reply then 1 else 0) :
    (m.note (.returned t q reply)).Counted where
  current u hu := by
    show signalsSince u (m.acts ++ [.returned t q reply]) = 0
    rw [signalsSince_concat]
    exact h.current u hu
  owed := h.owed
  past before u q' reply' hpast := by
    rcases List.prefix_concat_iff.1 hpast with heq | hbefore
    · obtain ⟨rfl, hact⟩ := List.append_inj' heq rfl
      cases hact
      exact hcount
    · exact h.past before u q' reply' hbefore

/-- A thread that is done gives the signal. -/
theorem signalled (h : m.Counted) {t : ι} (hidle : m.stage t = .idle) :
    (m.note (.signalled t)).Counted where
  current u hu := by
    have hne : ¬ t = u := by
      rintro rfl
      exact hu hidle
    show signalsSince u (m.acts ++ [.signalled t]) = 0
    rw [signalsSince_concat]
    exact (if_neg hne).trans (h.current u hu)
  owed := h.owed
  past before u q reply hpast := by
    rcases List.prefix_concat_iff.1 hpast with heq | hbefore
    · cases (List.append_inj' heq rfl).2
    · exact h.past before u q reply hbefore

/-- To wake sleepers is neither to call nor to signal. -/
theorem woken (h : m.Counted) :
    ({ m with stage := fun u => (m.stage u).woken } : Monitor ι).Counted where
  current u hu := h.current u fun hidle => hu (congrArg Stage.woken hidle)
  owed u q reply hu := h.owed u q reply (Stage.eq_signalling_of_woken hu)
  past := h.past

/-- The lock and the slots do not count. -/
theorem pass (h : m.Counted) (ring : Ring) (owner : Option ι) :
    ({ m with ring, owner } : Monitor ι).Counted :=
  ⟨h.current, h.owed, h.past⟩

theorem step (h : m.Counted) (heffect : Effect m m') : m'.Counted := by
  -- One case for each way that a step can go.
  cases heffect with
  | rests => exact h
  | calls t q hstage => exact h.call t q
  | enters t q hstage hfree =>
    exact (h.pass m.ring (some t)).move hstage Stage.noConfusion fun _ _ => Stage.noConfusion
  | sleeps t q hstage hwaiting =>
    exact (h.pass m.ring none).move hstage Stage.noConfusion fun _ _ => Stage.noConfusion
  | serves t q hstage hserved =>
    exact (h.pass _ m.owner).move hstage Stage.noConfusion fun _ _ => Stage.noConfusion
  | returns t q reply hstage hquiet =>
    refine ((h.pass m.ring none).move hstage Stage.noConfusion
      fun _ _ => Stage.noConfusion).returned ?_
    rw [hquiet]
    exact h.current t (by rw [hstage]; exact Stage.noConfusion)
  | leaves t q reply hstage hsignals =>
    refine (h.pass m.ring none).move hstage Stage.noConfusion fun q' reply' he => ?_
    cases he
    exact hsignals
  | signals t q reply hstage =>
    have hmoved := h.woken.move (congrArg Stage.woken hstage) Stage.noConfusion
      fun q' reply' (he : Stage.idle = .signalling q' reply') => Stage.noConfusion he
    refine (hmoved.signalled (if_pos rfl)).returned ?_
    rw [h.owed t q reply hstage]
    show signalsSince t (m.acts ++ [.signalled t]) = 1
    rw [signalsSince_concat]
    show (if t = t then signalsSince t m.acts + 1 else signalsSince t m.acts) = 1
    rw [if_pos rfl, h.current t (by rw [hstage]; exact Stage.noConfusion)]
  | wakes t q hstage => exact h.move hstage Stage.noConfusion fun _ _ => Stage.noConfusion

end Counted

end LanWatch.Monitor
