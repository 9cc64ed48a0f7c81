import LanWatch.Pending.Monitor

namespace LanWatch.Monitor

/-!
# What a thread can do next

The steps of the threads at the slots, told by where a thread stands before and after. Everything
about runs is proved from this.

* `Stage.holdsLock`, `Stage.owesSignal` — what can be read off the place where a thread stands;
* `Effect`, `step_effect` — what a step leaves, one constructor for each way that it can go;
* `Locked` — only the thread that holds the lock is at the slots.
-/

variable {ι : Type} [DecidableEq ι]

/-! ### One step -/

/-- The thread holds the lock. -/
def Stage.holdsLock : Stage → Bool
  | inside _ | leaving _ _ => true
  | idle | entering _ | asleep _ | signalling _ _ => false

/-- The thread has changed what consumers wait for, and has not given the signal yet. -/
def Stage.owesSignal : Stage → Bool
  | leaving q reply | signalling q reply => q.signals reply
  | idle | entering _ | inside _ | asleep _ => false

/-- What a turn can leave of `m`. -/
inductive Effect (m : Monitor ι) : Monitor ι → Prop where
  /-- The thread has no step to take. -/
  | rests : Effect m m
  | calls (t : ι) (q : Keeper.Request) (hstage : m.stage t = .idle) :
      Effect m ((m.move t (.entering q)).note (.called t q))
  | enters (t : ι) (q : Keeper.Request) (hstage : m.stage t = .entering q)
      (hfree : m.owner = none) : Effect m ((m.pass (some t)).move t (.inside q))
  | sleeps (t : ι) (q : Keeper.Request) (hstage : m.stage t = .inside q)
      (hwaiting : (Keeper.ring.serve m.ring q).2 = .waiting) :
      Effect m ((m.pass none).move t (.asleep q))
  | serves (t : ι) (q : Keeper.Request) (hstage : m.stage t = .inside q)
      (hserved : (Keeper.ring.serve m.ring q).2 ≠ .waiting) :
      Effect m ({ m with ring := (Keeper.ring.serve m.ring q).1 }.move t
        (.leaving q (Keeper.ring.serve m.ring q).2))
  | returns (t : ι) (q : Keeper.Request) (reply : Keeper.Reply)
      (hstage : m.stage t = .leaving q reply) (hquiet : q.signals reply = false) :
      Effect m (((m.pass none).move t .idle).note (.returned t q reply))
  | leaves (t : ι) (q : Keeper.Request) (reply : Keeper.Reply)
      (hstage : m.stage t = .leaving q reply) (hsignals : q.signals reply = true) :
      Effect m ((m.pass none).move t (.signalling q reply))
  | signals (t : ι) (q : Keeper.Request) (reply : Keeper.Reply)
      (hstage : m.stage t = .signalling q reply) : Effect m (m.signal t q reply)
  | wakes (t : ι) (q : Keeper.Request) (hstage : m.stage t = .asleep q) :
      Effect m (m.move t (.entering q))

/-- Under the lock a request is served, or its caller goes to sleep. -/
theorem serve_effect (m : Monitor ι) {t : ι} {q : Keeper.Request} (hstage : m.stage t = .inside q) :
    Effect m (m.serve t q) := by
  have hserve : m.serve t q =
      if (Keeper.ring.serve m.ring q).2 = .waiting then (m.pass none).move t (.asleep q)
      else { m with ring := (Keeper.ring.serve m.ring q).1 }.move t
        (.leaving q (Keeper.ring.serve m.ring q).2) := by
    unfold serve
    generalize Keeper.ring.serve m.ring q = served
    obtain ⟨ring, reply⟩ := served
    cases reply <;> rfl
  rw [hserve]
  split
  case isTrue hwaiting => exact .sleeps t q hstage hwaiting
  case isFalse hserved => exact .serves t q hstage hserved

/-- Every step is one of these. -/
theorem step_effect (m : Monitor ι) (turn : Turn ι) : Effect m (m.step turn) := by
  cases turn with
  | call t q =>
    simp only [step]
    cases hstage : m.stage t with
    | idle => exact .calls t q hstage
    | _ => exact .rests
  | proceed t =>
    simp only [step]
    cases hstage : m.stage t with
    | idle => exact .rests
    | asleep q => exact .rests
    | entering q =>
      show Effect m (m.enter t q)
      unfold enter
      split
      case isTrue hfree => exact .enters t q hstage hfree
      case isFalse => exact .rests
    | inside q => exact serve_effect m hstage
    | leaving q reply =>
      show Effect m (m.leave t q reply)
      unfold leave
      split
      case isTrue hsignals => exact .leaves t q reply hstage hsignals
      case isFalse hquiet => exact .returns t q reply hstage (Bool.eq_false_iff.2 hquiet)
    | signalling q reply => exact .signals t q reply hstage
  | wake t =>
    simp only [step]
    cases hstage : m.stage t with
    | asleep q => exact .wakes t q hstage
    | _ => exact .rests

/-- A move is that of one thread. -/
theorem stage_move (m : Monitor ι) (t : ι) (stage : Stage) (u : ι) :
    (m.move t stage).stage u = if u = t then stage else m.stage u := rfl

/-- Waking changes nothing about the lock or about signals that are owed. -/
theorem Stage.woken_keeps (stage : Stage) :
    stage.woken.holdsLock = stage.holdsLock ∧ stage.woken.owesSignal = stage.owesSignal := by
  cases stage <;> exact ⟨rfl, rfl⟩

/-- A signal is owed by a thread that leaves with an answer, and until it has given it. -/
theorem Stage.eq_of_owesSignal {stage : Stage} (h : stage.owesSignal = true) :
    ∃ q reply, q.signals reply = true ∧ (stage = .leaving q reply ∨ stage = .signalling q reply) := by
  cases stage with
  | leaving q reply => exact ⟨q, reply, h, .inl rfl⟩
  | signalling q reply => exact ⟨q, reply, h, .inr rfl⟩
  | _ => cases h

/-- To wake a thread is not to let it leave. -/
theorem Stage.eq_leaving_of_woken {stage : Stage} {q : Keeper.Request} {reply : Keeper.Reply}
    (h : stage.woken = .leaving q reply) : stage = .leaving q reply := by
  cases stage with
  | leaving q' reply' => exact h
  | _ => cases h

/-- To wake a thread is not to let it signal. -/
theorem Stage.eq_signalling_of_woken {stage : Stage} {q : Keeper.Request} {reply : Keeper.Reply}
    (h : stage.woken = .signalling q reply) : stage = .signalling q reply := by
  cases stage with
  | signalling q' reply' => exact h
  | _ => cases h

/-- A thread that was woken is not asleep. -/
theorem Stage.woken_ne_asleep (stage : Stage) (q : Keeper.Request) : stage.woken ≠ .asleep q := by
  cases stage <;> exact Stage.noConfusion

/-! ### The lock -/

/-- The threads that are at the slots are the one that holds the lock. -/
def Locked (m : Monitor ι) : Prop :=
  ∀ t, m.owner = some t ↔ (m.stage t).holdsLock = true

namespace Locked

variable {m m' : Monitor ι}

/-- A thread that moves on with the lock, or without it. -/
theorem move (h : m.Locked) {t : ι} {stage : Stage}
    (hsame : stage.holdsLock = (m.stage t).holdsLock) : (m.move t stage).Locked := by
  intro u
  rw [stage_move]
  split
  case isTrue he =>
    subst he
    rw [hsame]
    exact h u
  case isFalse => exact h u

/-- A thread takes the lock that nobody had. -/
theorem take (h : m.Locked) (hfree : m.owner = none) (t : ι) {stage : Stage}
    (hholds : stage.holdsLock = true) : ((m.pass (some t)).move t stage).Locked := by
  intro u
  rw [stage_move]
  split
  case isTrue he =>
    subst he
    exact iff_of_true rfl hholds
  case isFalse hne =>
    have hnot : ¬ (m.stage u).holdsLock = true := by
      rw [← h u, hfree]
      exact (Option.some_ne_none u).symm
    exact iff_of_false (fun he => hne (Option.some.inj he).symm) hnot

/-- A thread gives back the lock that it had, so nobody has it. -/
theorem give (h : m.Locked) {t : ι} (hheld : (m.stage t).holdsLock = true) {stage : Stage}
    (hgives : stage.holdsLock = false) : ((m.pass none).move t stage).Locked := by
  intro u
  rw [stage_move]
  refine iff_of_false (Option.some_ne_none u).symm ?_
  split
  case isTrue => exact Bool.eq_false_iff.1 hgives
  case isFalse hne =>
    -- Another thread would have to hold the same lock.
    show ¬ (m.stage u).holdsLock = true
    rw [← h u, (h t).2 hheld]
    exact fun he => hne (Option.some.inj he).symm

omit [DecidableEq ι] in
/-- To wake all sleepers is to give the lock to none of them. -/
theorem woken (h : m.Locked) : ({ m with stage := fun u => (m.stage u).woken } : Monitor ι).Locked :=
  fun u => (m.stage u).woken_keeps.1 ▸ h u

/-- Every step passes the lock on or leaves it alone. -/
theorem step (h : m.Locked) (heffect : Effect m m') : m'.Locked := by
  cases heffect with
  | rests => exact h
  | calls t q hstage =>
    have hmoved : (m.move t (.entering q)).Locked := h.move (by rw [hstage]; rfl)
    exact hmoved
  | enters t q hstage hfree => exact h.take hfree t rfl
  | sleeps t q hstage hwaiting => exact h.give (by rw [hstage]; rfl) rfl
  | serves t q hstage hserved =>
    have hserve : ({ m with ring := (Keeper.ring.serve m.ring q).1 } : Monitor ι).Locked := h
    exact hserve.move (by rw [hstage]; rfl)
  | returns t q reply hstage hquiet =>
    have hgiven : ((m.pass none).move t .idle).Locked := h.give (by rw [hstage]; rfl) rfl
    exact hgiven
  | leaves t q reply hstage hsignals => exact h.give (by rw [hstage]; rfl) rfl
  | signals t q reply hstage =>
    have hwoken : (m.stage t).woken.holdsLock = false := by
      rw [(m.stage t).woken_keeps.1, hstage]
      rfl
    exact h.woken.move hwoken.symm
  | wakes t q hstage => exact h.move (by rw [hstage]; rfl)

end Locked

end LanWatch.Monitor
