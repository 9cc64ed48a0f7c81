import LanWatch.Proofs.Monitor.Signals
import LanWatch.Proofs.Pending.Refinement

namespace LanWatch

/-!
# No waiting consumer is forgotten

The signal is given after the lock was given back, so there are moments at which a sighting is
pending while consumers still sleep. Then a thread is on its way to give the signal: a consumer goes
to sleep only when nothing is pending and the slots are open, and what changes that is a request that
ends with the signal.

* `Keeper.serve_waiting`, `Keeper.quiet_serve` — who has to wait, and which requests change that;
* `Keeper.answers_serve` — what the others are answered;
* `Monitor.Told` — a sleeper has nothing to be told of, or some thread is on its way to tell it;
* `Monitor.Answered` — what a thread was answered still holds as long as it has the lock;
* `Monitor.Sound` — these and what is known of the lock and the signals, which every step keeps;
* `Monitor.sleepers_are_told` — what follows for every run.
-/

/-! ### Requests -/

namespace Keeper

variable {r : Ring}

/-- Nothing is pending, and something may still come. -/
def Quiet (r : Ring) : Prop :=
  r.toList = [] ∧ r.closed = false

/-- What a request is answered by slots in which it is served. -/
def Answers (r : Ring) : Request → Reply → Prop
  | .push _ _, reply => ∃ outcome, reply = .pushed outcome
  | .pop wait, reply => reply = .popped r.toList.head? ∧
      (r.toList = [] → wait = true → r.closed = true)
  | .release, reply | .flush, reply | .close, reply => reply = .done

/-- Only a consumer that is willing to wait has to, and only if nothing is pending and the slots are
    open. -/
theorem serve_waiting (hr : r.Laid) {q : Request} (h : (ring.serve r q).2 = .waiting) :
    q = .pop true ∧ Quiet r := by
  cases q with
  -- Only a pop that is to wait can be told to: the other requests always answer.
  | pop wait =>
    cases wait with
    | false => cases h
    | true =>
      refine ⟨rfl, ?_⟩
      have h : ofAwaited r.await = .waiting := h
      -- It waits when nothing is pending and the slots are open.
      rw [hr.await_eq] at h
      cases hlist : r.toList with
      | nil =>
        rw [hlist] at h
        cases hclosed : r.closed with
        | false => exact ⟨hlist, hclosed⟩
        | true =>
          rw [hclosed] at h
          cases h
      | cons s ss =>
        rw [hlist] at h
        cases h
  | push suppress s => cases h
  | release => cases h
  | flush => cases h
  | close => cases h

/-- Who does not have to wait is answered by the slots as the request leaves them. -/
theorem answers_serve (hr : r.Laid) {q : Request} (h : (ring.serve r q).2 ≠ .waiting) :
    Answers (ring.serve r q).1 q (ring.serve r q).2 := by
  cases q with
  | pop wait =>
    -- Of the requests only the two pops speak of the list.
    cases wait with
    | false =>
      refine ⟨?_, fun _ hwait => by cases hwait⟩
      show Reply.popped r.front? = .popped r.toList.head?
      rw [Ring.front?_eq_head? hr]
    | true =>
      have h : ofAwaited r.await ≠ .waiting := h
      show ofAwaited r.await = .popped r.toList.head? ∧ (r.toList = [] → true = true → r.closed = true)
      rw [hr.await_eq] at h ⊢
      cases hlist : r.toList with
      -- With nothing pending the pop would wait, unless the slots are closed.
      | nil =>
        rw [hlist] at h
        cases hclosed : r.closed with
        | false =>
          rw [hclosed] at h
          exact absurd rfl h
        | true => exact ⟨rfl, fun _ _ => rfl⟩
      | cons s ss => exact ⟨rfl, fun hnil => by cases hnil⟩
  | push suppress s => exact ⟨_, rfl⟩
  | release => rfl
  | flush => rfl
  | close => rfl

/-- Unless consumers have to be told of a request, they would still have to wait after it. -/
theorem quiet_serve (hr : r.Valid) (hquiet : Quiet r) {q : Request}
    (h : q.signals (ring.serve r q).2 = false) : Quiet (ring.serve r q).1 := by
  obtain ⟨hnil, hopen⟩ := hquiet
  cases q with
  | push suppress s =>
    -- A push without a signal stored nothing, so the slots stay empty.
    have h : (Request.push suppress s).signals (.pushed (r.push suppress s).2) = false := h
    refine ⟨?_, (Ring.push_keeps r suppress s).2.trans hopen⟩
    show (r.push suppress s).1.toList = []
    rcases hr.push_cases suppress s with
      ⟨-, hlist⟩ | ⟨-, -, hlist⟩ | ⟨ho, -⟩ | ⟨ho, -, -, -⟩
    · rw [hlist, hnil]
    · rw [hlist, hnil]
    · rw [ho] at h
      cases h
    · rw [ho] at h
      cases h
  | pop wait => cases wait <;> exact ⟨hnil, hopen⟩
  | release =>
    refine ⟨?_, (Ring.release_keeps r).2.trans hopen⟩
    show r.release.toList = []
    rw [Ring.toList_release hr, hnil]
    rfl
  | flush =>
    have hqueue := (Ring.flush_spec hr).2
    exact ⟨congrArg Queue.items hqueue, (congrArg Queue.closed hqueue).trans hopen⟩
  | close => cases h

end Keeper

namespace Monitor

variable {ι : Type} [DecidableEq ι]

/-! ### What is owed and what was answered -/

/-- A thread that sleeps has nothing to be told of, or some thread is on its way to tell it. -/
def Told (m : Monitor ι) : Prop :=
  ∀ t q, m.stage t = .asleep q → Keeper.Quiet m.ring ∨ ∃ u, (m.stage u).owesSignal = true

/-- A thread that owes the signal goes on owing it when another one moves on, and when it moves on
    itself to where it still does. -/
theorem owes_move {m : Monitor ι} {t : ι} {stage : Stage}
    (hkeeps : (m.stage t).owesSignal = true → stage.owesSignal = true)
    (howes : ∃ u, (m.stage u).owesSignal = true) :
    ∃ u, ((m.move t stage).stage u).owesSignal = true := by
  obtain ⟨u, hu⟩ := howes
  refine ⟨u, ?_⟩
  rw [stage_move]
  split
  case isTrue he =>
    subst he
    exact hkeeps hu
  case isFalse => exact hu

namespace Told

variable {m m' : Monitor ι}

/-- A thread that moves on without going to sleep and without dropping what it owes. -/
theorem move (h : m.Told) {t : ι} {stage : Stage} (hawake : ∀ q, stage ≠ .asleep q)
    (hkeeps : (m.stage t).owesSignal = true → stage.owesSignal = true) : (m.move t stage).Told := by
  intro u q hu
  rw [stage_move] at hu
  split at hu
  case isTrue => exact absurd hu (hawake q)
  case isFalse => exact (h u q hu).imp_right (owes_move hkeeps)

/-- A thread goes to sleep only if it has nothing to be told of. -/
theorem sleep (hv : m.ring.Valid) {t : ι} {q : Keeper.Request}
    (hwaiting : (Keeper.ring.serve m.ring q).2 = .waiting) :
    ((m.pass none).move t (.asleep q)).Told :=
  fun _ _ _ => .inl (Keeper.serve_waiting hv.toLaid hwaiting).2

/-- Either the thread that is served owes the signal from now on, or those that sleep would still
    have to wait. -/
theorem serve (h : m.Told) (hv : m.ring.Valid) {t : ι} {q : Keeper.Request}
    (hstage : m.stage t = .inside q) :
    ({ m with ring := (Keeper.ring.serve m.ring q).1 }.move t
      (.leaving q (Keeper.ring.serve m.ring q).2)).Told := by
  intro u q' hu
  -- The thread that is served is no longer inside, so the sleeper is another one.
  rw [stage_move] at hu
  split at hu
  case isTrue => cases hu
  case isFalse =>
    cases hsignals : q.signals (Keeper.ring.serve m.ring q).2 with
    | true =>
      -- The thread itself owes the signal that the sleeper waits for.
      refine .inr ⟨t, ?_⟩
      rw [stage_move, if_pos rfl]
      exact hsignals
    | false =>
      have hkeeps : (m.stage t).owesSignal = true →
          (Stage.leaving q (Keeper.ring.serve m.ring q).2).owesSignal = true := by
        rw [hstage]
        -- Without a signal nothing was stored or closed, so a quiet ring stays quiet.
        exact fun howes => by cases howes
      exact (h u q' hu).imp (fun hquiet => Keeper.quiet_serve hv hquiet hsignals)
        (owes_move (m := { m with ring := (Keeper.ring.serve m.ring q).1 }) hkeeps)

/-- After the signal nobody sleeps. -/
theorem signal (m : Monitor ι) (t : ι) (q : Keeper.Request) (reply : Keeper.Reply) :
    (m.signal t q reply).Told := by
  intro u q' hu
  have hu : (if u = t then Stage.idle else (m.stage u).woken) = .asleep q' := hu
  split at hu
  case isTrue => cases hu
  case isFalse => exact absurd hu (Stage.woken_ne_asleep _ q')

theorem step (h : m.Told) (hv : m.ring.Valid) (heffect : Effect m m') : m'.Told := by
  -- One case for each way that a step can go. Where there is something new to be told, the thread
  -- that brought it owes the signal.
  cases heffect with
  | rests => exact h
  | calls t q hstage =>
    have hmoved : (m.move t (.entering q)).Told := h.move (fun _ => Stage.noConfusion) (by
      rw [hstage]
      exact id)
    exact hmoved
  | enters t q hstage hfree =>
    have hmoved : (m.move t (.inside q)).Told := h.move (fun _ => Stage.noConfusion) (by
      rw [hstage]
      exact id)
    exact hmoved
  | sleeps t q hstage hwaiting => exact sleep hv hwaiting
  | serves t q hstage hserved => exact h.serve hv hstage
  | returns t q reply hstage hquiet =>
    have hmoved : (m.move t .idle).Told := h.move (fun _ => Stage.noConfusion) (by
      rw [hstage]
      exact fun howes => absurd howes (Bool.eq_false_iff.1 hquiet))
    exact hmoved
  | leaves t q reply hstage hsignals =>
    have hmoved : (m.move t (.signalling q reply)).Told := h.move (fun _ => Stage.noConfusion) (by
      rw [hstage]
      exact id)
    exact hmoved
  | signals t q reply hstage => exact signal m t q reply
  | wakes t q hstage =>
    refine h.move (fun _ => Stage.noConfusion) ?_
    rw [hstage]
    exact id

end Told

/-- A thread that was served and has the lock finds the slots as they answered it. -/
def Answered (m : Monitor ι) : Prop :=
  ∀ t q reply, m.stage t = .leaving q reply → Keeper.Answers m.ring q reply

namespace Answered

variable {m m' : Monitor ι}

/-- A thread that moves without having been served has no answer to keep. -/
theorem move (h : m.Answered) {t : ι} {stage : Stage} (hserved : ∀ q reply, stage ≠ .leaving q reply) :
    (m.move t stage).Answered := by
  intro u q reply hu
  rw [stage_move] at hu
  split at hu
  case isTrue => exact absurd hu (hserved q reply)
  case isFalse => exact h u q reply hu

/-- Nobody else has the lock while a thread is served. -/
theorem serve (hlocked : m.Locked) (hv : m.ring.Valid) {t : ι} {q : Keeper.Request}
    (hstage : m.stage t = .inside q) (hserved : (Keeper.ring.serve m.ring q).2 ≠ .waiting) :
    ({ m with ring := (Keeper.ring.serve m.ring q).1 }.move t
      (.leaving q (Keeper.ring.serve m.ring q).2)).Answered := by
  intro u q' reply hu
  rw [stage_move] at hu
  split at hu
  case isTrue =>
    cases hu
    exact Keeper.answers_serve hv.toLaid hserved
  case isFalse hne =>
    have hu : m.stage u = .leaving q' reply := hu
    have hother : m.owner = some u := (hlocked u).2 (by rw [hu]; rfl)
    have hown : m.owner = some t := (hlocked t).2 (by rw [hstage]; rfl)
    exact absurd (Option.some.inj (hother.symm.trans hown)) hne

/-- A signal changes no answer. -/
theorem signal (h : m.Answered) (t : ι) (q : Keeper.Request) (reply : Keeper.Reply) :
    (m.signal t q reply).Answered := by
  intro u q' reply' hu
  have hu : (if u = t then Stage.idle else (m.stage u).woken) = .leaving q' reply' := hu
  split at hu
  case isTrue => cases hu
  case isFalse => exact h u q' reply' (Stage.eq_leaving_of_woken hu)

/-- An answer is given while the lock is held, so that it tells of the slots as they are. -/
theorem step (h : m.Answered) (hlocked : m.Locked) (hv : m.ring.Valid) (heffect : Effect m m') :
    m'.Answered := by
  cases heffect with
  | rests => exact h
  | calls t q hstage =>
    -- A move that leaves the ring and the acts alone keeps the answers.
    have hmoved : (m.move t (.entering q)).Answered := h.move fun _ _ => Stage.noConfusion
    exact hmoved
  | enters t q hstage hfree =>
    have hmoved : (m.move t (.inside q)).Answered := h.move fun _ _ => Stage.noConfusion
    exact hmoved
  | sleeps t q hstage hwaiting =>
    have hmoved : (m.move t (.asleep q)).Answered := h.move fun _ _ => Stage.noConfusion
    exact hmoved
  | serves t q hstage hserved => exact serve hlocked hv hstage hserved
  | returns t q reply hstage hquiet =>
    have hmoved : (m.move t .idle).Answered := h.move fun _ _ => Stage.noConfusion
    exact hmoved
  | leaves t q reply hstage hsignals =>
    have hmoved : (m.move t (.signalling q reply)).Answered := h.move fun _ _ => Stage.noConfusion
    exact hmoved
  | signals t q reply hstage => exact h.signal t q reply
  | wakes t q hstage => exact h.move fun _ _ => Stage.noConfusion

end Answered

/-! ### What follows for every run -/

/-- What every step keeps: the slots are laid out as they should be, and all of the above. -/
structure Sound (m : Monitor ι) : Prop where
  valid : m.ring.Valid
  locked : m.Locked
  told : m.Told
  answered : m.Answered
  counted : m.Counted

theorem sound_start {r : Ring} (hv : r.Valid) : (start ι r).Sound where
  valid := hv
  locked _ := iff_of_false (Option.some_ne_none _).symm Bool.false_ne_true
  told _ _ ht := by cases ht
  answered _ _ _ ht := by cases ht
  counted := {
    current := fun _ ht => absurd rfl ht
    owed := fun _ _ _ ht => by cases ht
    past := fun before t q reply hpast => by
      have hnil := List.prefix_nil.1 hpast
      exact absurd hnil (List.append_ne_nil_of_right_ne_nil _ (List.cons_ne_nil _ [])) }

/-- Whatever a thread does to the slots, they stay valid. -/
theorem valid_effect {m m' : Monitor ι} (hv : m.ring.Valid) (heffect : Effect m m') :
    m'.ring.Valid := by
  cases heffect with
  | serves t q hstage hserved => exact (Keeper.stands_serve m.ring _ q ⟨hv, rfl⟩).1.1
  | _ => exact hv

/-- Each part is kept by every step. -/
theorem Sound.step {m : Monitor ι} (h : m.Sound) (turn : Turn ι) : (m.step turn).Sound := by
  have heffect := step_effect m turn
  exact ⟨valid_effect h.valid heffect, h.locked.step heffect, h.told.step h.valid heffect,
    h.answered.step h.locked h.valid heffect, h.counted.step heffect⟩

theorem Sound.run {m : Monitor ι} (h : m.Sound) (turns : List (Turn ι)) : (m.run turns).Sound := by
  -- By induction on the turns.
  induction turns generalizing m with
  | nil => exact h
  | cons turn turns ih => exact ih (h.step turn)

/-- A thread that returns was served by the slots as they are, and nobody else is at them. -/
theorem Sound.returned_pop {m : Monitor ι} (h : m.Sound) {turn : Turn ι} {t : ι} {wait : Bool}
    {reply : Keeper.Reply}
    (hacts : (m.step turn).acts = m.acts ++ [.returned t (.pop wait) reply]) :
    m.owner = some t ∧ Keeper.Answers m.ring (.pop wait) reply := by
  have heffect := step_effect m turn
  generalize m.step turn = m' at hacts heffect
  -- What was seen last tells which way the step went.
  cases heffect with
  | returns u q reply' hstage hquiet =>
    cases List.append_cancel_left hacts
    exact ⟨(h.locked t).2 (by rw [hstage]; rfl), h.answered t _ _ hstage⟩
  | calls u q hstage => cases List.append_cancel_left hacts
  | signals u q reply' hstage =>
    -- A request that ends with the signal is no look.
    have hlen := congrArg List.length hacts
    have hlen : (m.acts ++ [Act.signalled u] ++ [Act.returned u q reply']).length =
      (m.acts ++ [Act.returned t (.pop wait) reply]).length := hlen
    rw [List.length_append, List.length_append, List.length_append] at hlen
    simp only [List.length_singleton] at hlen
    omega
  | _ =>
    have hlen : m.acts.length = (m.acts ++ [Act.returned t (.pop wait) reply]).length :=
      congrArg List.length hacts
    rw [List.length_append, List.length_singleton] at hlen
    omega

/-- Whatever steps any number of threads take at slots that were just set up: when a consumer sleeps
    although a sighting is pending or the slots are closed, some thread has stored or closed and has
    not given the signal yet. A consumer that is willing to wait returns with the oldest sighting that
    is pending when it does, and without one only if none is pending and the slots are closed. And a
    thread gives the signal once in a request that stored or closed, and in no other, so not if the
    sighting was passed over or dropped. -/
theorem sleepers_are_told {capacity : Nat} (hcap : 2 ≤ capacity) (overflow : Overflow) :
    (∀ memory, Ring.Fits capacity memory →
      Ring.create capacity overflow memory = .ok (.empty capacity overflow)) ∧
      ∀ (turns : List (Turn ι)) (m : Monitor ι),
        m = (start ι (.empty capacity overflow)).run turns →
        (∀ t q, m.stage t = .asleep q → m.ring.toList ≠ [] ∨ m.ring.closed = true →
          ∃ u q' reply, q'.signals reply = true ∧
            (m.stage u = .leaving q' reply ∨ m.stage u = .signalling q' reply)) ∧
        (∀ turn t reply, (m.step turn).acts = m.acts ++ [.returned t (.pop true) reply] →
          m.owner = some t ∧ reply = .popped m.ring.toList.head? ∧
            (m.ring.toList = [] → m.ring.closed = true)) ∧
        ∀ before t q reply, before ++ [.returned t q reply] <+: m.acts →
          signalsSince t before = if q.signals reply then 1 else 0 := by
  refine ⟨fun _ => Ring.create_eq_empty hcap overflow, ?_⟩
  rintro turns m rfl
  have h := (sound_start (ι := ι) (Ring.valid_empty hcap overflow)).run turns
  refine ⟨?_, ?_, h.counted.past⟩
  · intro t q ht hpending
    rcases h.told t q ht with ⟨hnil, hopen⟩ | ⟨u, howes⟩
    · -- With nothing pending and the slots open there is nothing to tell.
      -- Nothing is pending and the slots are open, so there is nothing to tell.
      rcases hpending with hne | hclosed
      · exact absurd hnil hne
      · rw [hopen] at hclosed
        cases hclosed
    · obtain ⟨q', reply, hsignals, hu⟩ := Stage.eq_of_owesSignal howes
      exact ⟨u, q', reply, hsignals, hu⟩
  · intro turn t reply hacts
    obtain ⟨howner, hreply, hover⟩ := h.returned_pop hacts
    exact ⟨howner, hreply, fun hnil => hover hnil rfl⟩

/-- Three threads at two slots. The first sleeps, the second has stored a sighting and has not given
    the signal yet, and the third is about to return with that sighting. -/
theorem sleepers_are_told_with_two_slots :
    ∃ r, Ring.create 2 .dropNew = .ok r ∧
      ∃ m, m = (start (Fin 3) r).run
          [.call 0 (.pop true), .proceed 0, .proceed 0,
            .call 1 (.push true (.unknown ⟨2, 0, 0, 0, 0, 1⟩ .epoch none)), .proceed 1, .proceed 1,
            .proceed 1, .call 2 (.pop true), .proceed 2, .proceed 2] ∧
        m.stage 0 = .asleep (.pop true) ∧
        m.ring.toList = [.unknown ⟨2, 0, 0, 0, 0, 1⟩ .epoch none] ∧
        (∃ u q' reply, q'.signals reply = true ∧
          (m.stage u = .leaving q' reply ∨ m.stage u = .signalling q' reply)) ∧
        (m.step (.proceed 2)).acts = m.acts ++ [.returned 2 (.pop true)
          (.popped (some (.unknown ⟨2, 0, 0, 0, 0, 1⟩ .epoch none)))] ∧
        m.owner = some 2 ∧
        m.ring.toList.head? = some (.unknown ⟨2, 0, 0, 0, 0, 1⟩ .epoch none) := by
  obtain ⟨hcreate, hall⟩ := sleepers_are_told (ι := Fin 3) (show 2 ≤ 2 by decide) .dropNew
  refine ⟨_, hcreate _ (by decide), _, rfl, by decide, by decide, ?_⟩
  obtain ⟨htold, hanswers, -⟩ := hall _ _ rfl
  refine ⟨htold 0 (.pop true) (by decide) (.inl (by decide)), by decide, ?_⟩
  obtain ⟨howner, hreply, -⟩ := hanswers (.proceed 2) 2
    (.popped (some (.unknown ⟨2, 0, 0, 0, 0, 1⟩ .epoch none))) (by decide)
  exact ⟨howner, (Keeper.Reply.popped.inj hreply).symm⟩

end Monitor

end LanWatch
