import LanWatch.Proofs.Handover.Hearing
import LanWatch.Proofs.Handover.Steps

namespace LanWatch

/-!
# What is lost when the worker is overtaken

Where the oldest sighting makes room for a new one, the producer too takes sightings out of the
slots, and it may do so between the worker's look and its release. Then the worker releases a slot
that it never looked at: the sighting in it was not reported, and no overrun was counted for it.

The ledger numbers the stored sightings and tells how each left the slots. A worker that looked at
number `k` and was overtaken by `m` evictions releases number `k + m`, and that one is lost unless
`m` is zero.

* `Ledger.Numbered` — how the ledger, the pending sightings and the worker's place in its loop
  belong together, with one lemma for each way that a step can go;
* `Handover.Accounted` — after every run they do, and the numbers stand for the sightings that were
  reported;
* `Handover.slipped_run` — slots are released late exactly if the worker is overtaken;
* `Handover.Counted` — every eviction was counted as an overrun;
* `Handover.all_accounted_iff_not_overtaken` — what is lost when the worker has returned;
* `Handover.sighting_lost_with_two_slots` — two slots and two sightings, one of them lost.
-/

/-- The worker released a slot that was not that of the sighting that it had looked at. -/
def Departure.late : Departure → Bool
  | evicted => false
  | released _ evictions => evictions != 0

/-! ### The ledger, one act longer -/

namespace Ledger

/-- What the ledger, the pending sightings and the worker's place in its loop have to do with each
    other. -/
structure Numbered (l : Ledger) (pending : List Sighting) (stage : Stage) : Prop where
  departures_le : l.departures.length ≤ l.accepted.length
  pending_eq : l.accepted.drop l.departures.length = pending
  /-- A release takes the number that was looked at, moved on by the evictions since. -/
  released : ∀ i k m, l.departures[i]? = some (.released k m) →
    i = k + m ∧ k ∈ l.reported ∧ (i ∈ l.reported ↔ m = 0)
  idle : stage.busy = false → ∀ k ∈ l.reported, k < l.departures.length
  /-- While the worker is busy, sightings leave the slots by eviction only. -/
  window : stage.busy = true → l.departures.length = l.looked + l.evictions ∧
    l.departures.length < l.accepted.length ∧
    ∀ i, l.looked ≤ i → i < l.departures.length → l.departures[i]? = some .evicted
  holding : ∀ s, stage = .holding s →
    l.accepted[l.looked]? = some s ∧ ∀ k ∈ l.reported, k < l.looked
  releasing : stage = .releasing → l.looked ∈ l.reported ∧ ∀ k ∈ l.reported, k ≤ l.looked

variable {l : Ledger} {pending : List Sighting} {stage : Stage} {s : Sighting}

theorem numbered_empty : Numbered {} [] .looking where
  departures_le := Nat.le_refl 0
  pending_eq := rfl
  released i k m h := by cases h
  idle _ k hk := by cases hk
  window h := by cases h
  holding s h := by cases h
  releasing h := by cases h

/-- Only what was stored is reported. -/
theorem Numbered.reported_lt (hi : l.Numbered pending stage) :
    ∀ k ∈ l.reported, k < l.accepted.length := by
  intro k hk
  have hle := hi.departures_le
  cases hstage : stage with
  | looking | finished =>
    -- Between two rounds the reports are of numbers that have left already.
    have := hi.idle (by rw [hstage]; rfl) k hk
    omega
  | holding s =>
    -- During a round they reach up to the number looked at, which the window keeps below the
    -- accepted.
    have := (hi.holding s hstage).2 k hk
    have := hi.window (by rw [hstage]; rfl)
    omega
  | releasing =>
    have := (hi.releasing hstage).2 k hk
    have := hi.window (by rw [hstage]; rfl)
    omega

/-- Something is pending exactly if something that was stored has not left. -/
theorem Numbered.departures_lt (hi : l.Numbered pending stage) (hne : pending ≠ []) :
    l.departures.length < l.accepted.length := by
  have hpos := List.length_pos_iff.2 hne
  rw [← hi.pending_eq, List.length_drop] at hpos
  omega

/-- A store adds a number behind the pending ones. -/
theorem Numbered.store (hi : l.Numbered pending stage) (s : Sighting) :
    (l.enter (.pushed s .stored)).Numbered (pending ++ [s]) stage := by
  have hle := hi.departures_le
  constructor
  · show l.departures.length ≤ (l.accepted ++ [s]).length
    rw [List.length_append]
    omega
  · show (l.accepted ++ [s]).drop l.departures.length = _
    -- What is pending is what has not left yet, so the new sighting is its last element.
    rw [List.drop_append_of_le_length hle, hi.pending_eq]
  · exact hi.released
  · exact hi.idle
  · intro hbusy
    obtain ⟨heq, hlt, hwindow⟩ := hi.window hbusy
    refine ⟨heq, ?_, hwindow⟩
    show l.departures.length < (l.accepted ++ [s]).length
    rw [List.length_append]
    omega
  · intro x hx
    obtain ⟨hlooked, hbefore⟩ := hi.holding x hx
    refine ⟨?_, hbefore⟩
    -- A new number comes after all others, so the one looked at stands where it stood.
    have hlt : l.looked < l.accepted.length := (List.getElem?_eq_some_iff.1 hlooked).1
    show (l.accepted ++ [s])[l.looked]? = some x
    rw [List.getElem?_append_left hlt, hlooked]
  · exact hi.releasing

/-- An eviction takes the first of the pending numbers, and the worker may have looked at that one.
    -/
theorem Numbered.evict (hi : l.Numbered pending stage) (s : Sighting) (hne : pending ≠ []) :
    (l.enter (.pushed s .evicted)).Numbered (pending.tail ++ [s]) stage := by
  have hlt := hi.departures_lt hne
  have hlen : (l.departures ++ [Departure.evicted]).length = l.departures.length + 1 :=
    List.length_append
  have hacc : (l.accepted ++ [s]).length = l.accepted.length + 1 := List.length_append
  -- All departures but the last are old ones.
  have hold : ∀ i, i < l.departures.length →
      (l.departures ++ [Departure.evicted])[i]? = l.departures[i]? :=
    fun i h => List.getElem?_append_left h
  have hlast : (l.departures ++ [Departure.evicted])[l.departures.length]? = some .evicted :=
    List.getElem?_concat_length
  constructor
  · show (l.departures ++ [Departure.evicted]).length ≤ (l.accepted ++ [s]).length
    omega
  · show (l.accepted ++ [s]).drop (l.departures ++ [Departure.evicted]).length = _
    rw [hlen, List.drop_append_of_le_length (by omega), ← hi.pending_eq, List.tail_drop]
  · intro i k m h
    have hi' : i < (l.departures ++ [Departure.evicted]).length :=
      (List.getElem?_eq_some_iff.1 h).1
    rcases Nat.lt_or_ge i l.departures.length with hlt' | hge
    · have h' : l.departures[i]? = some (.released k m) := (hold i hlt').symm.trans h
      exact hi.released i k m h'
    · -- The last departure is the eviction, and no release.
      obtain rfl : i = l.departures.length := by omega
      have := hlast.symm.trans h
      cases this
  · intro hidle k hk
    have := hi.idle hidle k hk
    show k < (l.departures ++ [Departure.evicted]).length
    omega
  · intro hbusy
    obtain ⟨heq, hlt', hwindow⟩ := hi.window hbusy
    refine ⟨?_, ?_, ?_⟩
    · show (l.departures ++ [Departure.evicted]).length = l.looked + (l.evictions + 1)
      omega
    · show (l.departures ++ [Departure.evicted]).length < (l.accepted ++ [s]).length
      omega
    · intro i hge hi'
      have hi' : i < (l.departures ++ [Departure.evicted]).length := hi'
      show (l.departures ++ [Departure.evicted])[i]? = some .evicted
      rcases Nat.lt_or_ge i l.departures.length with hlt'' | hge'
      · rw [hold i hlt'']
        exact hwindow i hge hlt''
      · obtain rfl : i = l.departures.length := by omega
        exact hlast
  · intro x hx
    obtain ⟨hlooked, hbefore⟩ := hi.holding x hx
    refine ⟨?_, hbefore⟩
    have hlt' : l.looked < l.accepted.length := (List.getElem?_eq_some_iff.1 hlooked).1
    show (l.accepted ++ [s])[l.looked]? = some x
    rw [List.getElem?_append_left hlt', hlooked]
  · exact hi.releasing

/-- A worker that looks notes the first of the pending numbers. -/
theorem Numbered.look (hi : l.Numbered pending .looking) (hhead : pending.head? = some s) :
    (l.enter (.looked s)).Numbered pending (.holding s) := by
  have hne : pending ≠ [] := by
    rintro rfl
    cases hhead
  have hlt := hi.departures_lt hne
  constructor
  · exact hi.departures_le
  · exact hi.pending_eq
  · exact hi.released
  · intro h
    cases h
  · intro _
    refine ⟨rfl, hlt, ?_⟩
    intro i hge hi'
    -- The window of numbers overtaken since the look is empty: nothing has left since.
    have hge : l.departures.length ≤ i := hge
    have hi' : i < l.departures.length := hi'
    omega
  · intro x hx
    cases hx
    refine ⟨?_, hi.idle rfl⟩
    show l.accepted[l.departures.length]? = some s
    -- The number looked at is the next to leave, which is the head of what is pending.
    rw [← List.head?_drop, hi.pending_eq, hhead]
  · intro h
    cases h

/-- A report goes under the number that the worker has looked at. -/
theorem Numbered.report (hi : l.Numbered pending (.holding s)) (error : Option SinkError) :
    (l.enter (.reported s error)).Numbered pending .releasing := by
  obtain ⟨heq, hlt, hwindow⟩ := hi.window rfl
  obtain ⟨hlooked, hbefore⟩ := hi.holding s rfl
  have hmem : ∀ k, k ∈ l.reported ++ [l.looked] ↔ k ∈ l.reported ∨ k = l.looked := by
    intro k
    rw [List.mem_append, List.mem_singleton]
  constructor
  · exact hi.departures_le
  · exact hi.pending_eq
  · intro i k m h
    have h : l.departures[i]? = some (.released k m) := h
    obtain ⟨hik, hk, hiff⟩ := hi.released i k m h
    have hi' : i < l.departures.length := (List.getElem?_eq_some_iff.1 h).1
    -- The number now reported has not left the slots, unless by eviction.
    have hne : i ≠ l.looked := by
      rintro rfl
      have := (hwindow l.looked (Nat.le_refl _) hi').symm.trans h
      cases this
    refine ⟨hik, (hmem k).2 (.inl hk), ?_⟩
    show i ∈ l.reported ++ [l.looked] ↔ m = 0
    rw [hmem, or_iff_left hne, hiff]
  · intro h
    cases h
  · intro _
    exact ⟨heq, hlt, hwindow⟩
  · intro x hx
    cases hx
  · intro _
    refine ⟨(hmem _).2 (.inr rfl), ?_⟩
    intro k hk
    rcases (hmem k).1 hk with hk | rfl
    · exact Nat.le_of_lt (hbefore k hk)
    · exact Nat.le_refl _

/-- A release takes the first of the pending numbers, whether it was looked at or not. -/
theorem Numbered.release (hi : l.Numbered pending .releasing) :
    (l.enter .released).Numbered pending.tail .looking := by
  obtain ⟨heq, hlt, hwindow⟩ := hi.window rfl
  obtain ⟨hlooked, hbefore⟩ := hi.releasing rfl
  have hlen : (l.departures ++ [Departure.released l.looked l.evictions]).length =
      l.departures.length + 1 := List.length_append
  constructor
  · show (l.departures ++ [Departure.released l.looked l.evictions]).length ≤ l.accepted.length
    omega
  · show l.accepted.drop (l.departures ++ [Departure.released l.looked l.evictions]).length = _
    rw [hlen, ← hi.pending_eq, List.tail_drop]
  · intro i k m h
    have h : (l.departures ++ [Departure.released l.looked l.evictions])[i]? =
      some (.released k m) := h
    have hi' := (List.getElem?_eq_some_iff.1 h).1
    rcases Nat.lt_or_ge i l.departures.length with hlt' | hge
    · rw [List.getElem?_append_left hlt'] at h
      exact hi.released i k m h
    · -- The slot released now: all reports so far are of numbers up to the one looked at.
      obtain rfl : i = l.departures.length := by omega
      rw [List.getElem?_concat_length] at h
      cases h
      refine ⟨heq, hlooked, ?_⟩
      constructor
      · intro hmem
        have := hbefore _ hmem
        omega
      · intro hzero
        have heq' : l.departures.length = l.looked := by omega
        show l.departures.length ∈ l.reported
        rw [heq']
        exact hlooked
  · intro _ k hk
    have := hbefore k hk
    show k < (l.departures ++ [Departure.released l.looked l.evictions]).length
    omega
  · intro h
    cases h
  · intro x hx
    cases hx
  · intro h
    cases h

/-- A worker that returns leaves the numbers alone. -/
theorem Numbered.finish (hi : l.Numbered pending .looking) : l.Numbered pending .finished where
  departures_le := hi.departures_le
  pending_eq := hi.pending_eq
  released := hi.released
  idle _ := hi.idle rfl
  window h := by cases h
  holding s h := by cases h
  releasing h := by cases h

end Ledger

namespace Handover

variable {σ : Type}

/-! ### The numbers after every run -/

/-- The ledger fits the slots and the worker, and the numbers in it are those of the sightings that
    the sink was given. -/
structure Accounted (h : Handover σ) : Prop where
  numbered : h.ledger.Numbered h.ring.toList h.worker.stage
  told : (reportedIn h.acts).map some = h.ledger.reported.map fun k => h.ledger.accepted[k]?

/-- Storing one more sighting changes no number. -/
theorem Accounted.told_concat {h : Handover σ} (hi : h.Accounted) (s : Sighting) :
    (reportedIn h.acts).map some =
      h.ledger.reported.map fun k => (h.ledger.accepted ++ [s])[k]? := by
  rw [hi.told]
  apply List.map_congr_left
  intro k hk
  rw [List.getElem?_append_left (hi.numbered.reported_lt k hk)]

/-- An act that is no report, or a report of what was looked at. -/
theorem Accounted.told_enter {h : Handover σ} (hi : h.Accounted) (a : Act)
    (hheld : ∀ s error, a = .reported s error →
      h.ledger.accepted[h.ledger.looked]? = some s) :
    (reportedIn (h.acts ++ [a])).map some =
      (h.ledger.enter a).reported.map fun k => (h.ledger.enter a).accepted[k]? := by
  rw [reportedIn_concat, List.map_append]
  cases a with
  | pushed s outcome =>
    -- A push reports nothing; a stored sighting only gets the next number.
    show (reportedIn h.acts).map some ++ [] = _
    rw [List.append_nil]
    cases outcome with
    | stored => exact hi.told_concat s
    | evicted => exact hi.told_concat s
    | dropped => exact hi.told
    | duplicate => exact hi.told
  | reported s error =>
    -- The report is of the sighting that was looked at, so it gets the number of the look.
    show (reportedIn h.acts).map some ++ [some s] =
      (h.ledger.reported ++ [h.ledger.looked]).map fun k => h.ledger.accepted[k]?
    rw [List.map_append, ← hi.told, List.map_singleton, hheld s error rfl]
  | _ =>
    show (reportedIn h.acts).map some ++ [] = _
    rw [List.append_nil]
    exact hi.told

/-- One more act. -/
theorem Accounted.enter {h h' : Handover σ} (hi : h.Accounted) {a : Act}
    (hacts : h'.acts = h.acts ++ [a])
    (hn : (h.ledger.enter a).Numbered h'.ring.toList h'.worker.stage)
    (hheld : ∀ s error, a = .reported s error →
      h.ledger.accepted[h.ledger.looked]? = some s) : h'.Accounted := by
  have hledger : h'.ledger = h.ledger.enter a := by
    unfold ledger
    rw [hacts, ofActs_concat]
  constructor
  · rw [hledger]
    exact hn
  · rw [hledger, hacts]
    exact hi.told_enter a hheld

theorem accounted_start {r : Ring} (hlist : r.toList = []) (state : σ) :
    (start r state).Accounted where
  numbered := by
    show Ledger.Numbered {} r.toList .looking
    rw [hlist]
    exact Ledger.numbered_empty
  told := rfl

/-- Every step enters what it did into the ledger, so the ledger goes on telling of the slots. -/
theorem accounted_step (sink : Sink σ) (h : Handover σ) (t : Turn) (hv : h.ring.Valid)
    (hi : h.Accounted) : (h.step sink t).Accounted := by
  have hn := hi.numbered
  -- Each kind of turn adds one act, and the lemma of that act carries the numbers over.
  have heffect := step_effect sink hv t
  generalize h.step sink t = h' at heffect
  cases heffect with
  | passes suppress s outcome hout ho hlist =>
    refine hi.enter rfl ?_ (fun _ _ ha => by cases ha)
    rw [hlist]
    rcases ho with rfl | rfl <;> exact hn
  | stores suppress s hout hlist =>
    refine hi.enter rfl ?_ (fun _ _ ha => by cases ha)
    rw [hlist]
    exact hn.store s
  | evicts suppress s hout hmode hne hlist =>
    refine hi.enter rfl ?_ (fun _ _ ha => by cases ha)
    rw [hlist]
    exact hn.evict s hne
  | closes => exact hi.enter rfl hn (fun _ _ ha => by cases ha)
  | rests => exact hi
  | looks s hstage hhead =>
    rw [hstage] at hn
    exact hi.enter rfl (hn.look hhead) (fun _ _ ha => by cases ha)
  | reports s hstage =>
    rw [hstage] at hn
    refine hi.enter rfl (hn.report _) ?_
    intro x error' ha
    cases ha
    -- The report follows a look, so its number is that of the sighting in hand.
    exact (hn.holding s rfl).1
  | releases hstage hlist =>
    rw [hstage] at hn
    refine hi.enter rfl ?_ (fun _ _ ha => by cases ha)
    rw [hlist]
    exact hn.release
  | returns hstage hlist hclosed =>
    rw [hstage] at hn
    exact hi.enter rfl hn.finish (fun _ _ ha => by cases ha)

/-! ### Releases out of turn -/

/-- A slot was released out of turn, or will be at the next release. -/
def slipped (h : Handover σ) : Bool :=
  h.ledger.departures.any Departure.late ||
    (h.worker.stage.busy && h.ledger.evictions != 0)

/-- One departure more is late, or one of the earlier ones was. -/
theorem any_late_concat (ds : List Departure) (d : Departure) :
    (ds ++ [d]).any Departure.late = (ds.any Departure.late || d.late) := by
  rw [List.any_append, List.any_cons, List.any_nil, Bool.or_false]

/-- An eviction makes the next release a late one if the worker is busy, and nothing else does. -/
theorem slipped_step (sink : Sink σ) (h : Handover σ) (t : Turn) (hv : h.ring.Valid) :
    (h.step sink t).slipped = (h.slipped || (h.worker.stage.busy && h.evicts t)) := by
  have heffect := step_effect sink hv t
  generalize h.step sink t = h' at heffect
  unfold slipped ledger
  cases heffect with
  -- Only an overwriting push evicts, so a push with another outcome leaves the answer as it was.
  | passes suppress s outcome hout ho hlist =>
    have hevicts : h.evicts (.push suppress s) = false := by
      rcases ho with rfl | rfl <;> exact beq_eq_false_iff_ne.2 (by rw [hout]; decide)
    rw [ofActs_concat, hevicts, Bool.and_false, Bool.or_false]
    rcases ho with rfl | rfl <;> rfl
  | stores suppress s hout hlist =>
    have hevicts : h.evicts (.push suppress s) = false :=
      beq_eq_false_iff_ne.2 (by rw [hout]; decide)
    rw [ofActs_concat, hevicts, Bool.and_false, Bool.or_false]
    rfl
  | evicts suppress s hout hmode hne hlist =>
    have hevicts : h.evicts (.push suppress s) = true := beq_iff_eq.2 hout
    rw [ofActs_concat, hevicts]
    -- An eviction is late exactly when a worker is between its look and its release.
    show (((Ledger.ofActs h.acts).departures ++ [Departure.evicted]).any Departure.late ||
      (h.worker.stage.busy && true)) = _
    rw [any_late_concat]
    cases h.worker.stage.busy <;> simp [Departure.late]
  | closes =>
    rw [ofActs_concat]
    show _ = (_ || (h.worker.stage.busy && false))
    rw [Bool.and_false, Bool.or_false]
    rfl
  | rests =>
    show _ = (_ || (h.worker.stage.busy && false))
    rw [Bool.and_false, Bool.or_false]
  | looks s hstage hhead => simp [ofActs_concat, hstage, Stage.busy, Ledger.enter]
  | reports s hstage =>
    simp [ofActs_concat, hstage, Stage.busy, Ledger.enter, evicts]
  | releases hstage hlist =>
    rw [ofActs_concat]
    simp only [Ledger.enter, any_late_concat, hstage]
    simp [Stage.busy, Departure.late, evicts]
  | returns hstage hlist hclosed => simp [ofActs_concat, hstage, Stage.busy, Ledger.enter]

/-- A release was late exactly if the worker was overtaken: by induction on the turns. -/
theorem slipped_run (sink : Sink σ) {h : Handover σ} (hv : h.ring.Valid) (ts : List Turn) :
    (h.run sink ts).slipped = (h.slipped || overtaken sink h ts) := by
  induction ts generalizing h with
  | nil => exact (Bool.or_false _).symm
  | cons t ts ih =>
    rw [run_cons, ih (valid_step sink hv t), slipped_step sink h t hv, Bool.or_assoc]
    rfl

/-! ### Overruns -/

/-- Slots that evict count their evictions, and nothing else. -/
structure Counted (h : Handover σ) : Prop where
  mode : h.ring.overflow = .evictOldest
  overruns_eq : h.ring.overruns = h.ledger.departures.count .evicted

/-- The worker counts the releases, and the ring the evictions. -/
theorem counted_step (sink : Sink σ) (h : Handover σ) (t : Turn) (hi : h.Counted) :
    (h.step sink t).Counted := by
  have hmode := hi.mode
  have heq := hi.overruns_eq
  -- Only a push into full slots and the release of a slot already evicted touch the counter.
  refine ⟨(overflow_step sink h t).trans hmode, ?_⟩
  cases t with
  | push suppress s =>
    show (h.ring.push suppress s).1.overruns =
      (Ledger.ofActs (h.acts ++ [.pushed s (h.ring.push suppress s).2])).departures.count .evicted
    rw [ofActs_concat]
    unfold Ring.push
    split
    · exact heq
    · split
      · rw [hmode]
        show h.ring.overruns + 1 = (h.ledger.departures ++ [Departure.evicted]).count .evicted
        rw [List.count_append, ← heq]
        rfl
      · exact heq
  | close =>
    show h.ring.overruns = (Ledger.ofActs (h.acts ++ [.closed])).departures.count .evicted
    rw [ofActs_concat]
    exact heq
  | work =>
    simp only [step, Worker.step]
    cases h.worker.stage with
    | looking =>
      cases h.ring.await with
      | waiting => exact heq
      | _ =>
        unfold ledger
        rw [ofActs_concat]
        exact heq
    | holding s =>
      unfold ledger
      rw [ofActs_concat]
      exact heq
    | releasing =>
      show h.ring.release.overruns =
        (Ledger.ofActs (h.acts ++ [.released])).departures.count .evicted
      rw [ofActs_concat, Ring.release_overruns]
      -- A release is no eviction, whatever it removed.
      show _ = (h.ledger.departures ++ [_]).count Departure.evicted
      rw [List.count_append, ← heq]
      rfl
    | finished => exact heq

/-! ### Runs that end -/

/-- As long as the slots are open the worker does not return. -/
theorem working_while_open (sink : Sink σ) {h : Handover σ} (hv : h.ring.Valid)
    (hopen : h.ring.closed = false) (hworking : h.worker.stage ≠ .finished) {before : List Turn}
    (hbefore : .close ∉ before) : (h.run sink before).worker.stage ≠ .finished := by
  have hstep : ∀ h : Handover σ, ∀ t ∈ before, h.ring.Valid →
      h.ring.closed = false ∧ h.worker.stage ≠ .finished →
      (h.step sink t).ring.closed = false ∧ (h.step sink t).worker.stage ≠ .finished := by
    rintro h t ht hv ⟨hopen, hworking⟩
    have hne : t ≠ .close := fun he => hbefore (he ▸ ht)
    refine ⟨(closed_step sink h hne).trans hopen, ?_⟩
    have heffect := step_effect sink hv t
    generalize h.step sink t = h' at heffect
    cases heffect with
    -- To return, the worker would have to find the slots closed.
    | returns hstage hlist hclosed => exact absurd hclosed (Bool.eq_false_iff.1 hopen)
    | passes | stores | evicts | closes | rests => exact hworking
    | looks | reports | releases => exact Stage.noConfusion
  exact (run_induction sink (fun h => h.ring.closed = false ∧ h.worker.stage ≠ .finished) before
    hstep hv ⟨hopen, hworking⟩).2

/-- A worker that goes on alone returns only when nothing is pending. -/
theorem nothing_pending_of_finished (sink : Sink σ) {h : Handover σ} (hv : h.ring.Valid)
    (hworking : h.worker.stage ≠ .finished) (n : Nat)
    (hfinished : (h.run sink (List.replicate n .work)).worker.stage = .finished) :
    (h.run sink (List.replicate n .work)).ring.toList = [] := by
  have hstep : ∀ h : Handover σ, ∀ t ∈ List.replicate n Turn.work, h.ring.Valid →
      (h.worker.stage = .finished → h.ring.toList = []) →
      (h.step sink t).worker.stage = .finished → (h.step sink t).ring.toList = [] := by
    intro h t ht hv hi
    -- Only an await on closed and empty slots finishes the worker, and its own turns store nothing.
    cases List.eq_of_mem_replicate ht
    have heffect := step_effect sink hv .work
    generalize h.step sink .work = h' at heffect
    cases heffect with
    | rests => exact hi
    | returns hstage hlist hclosed => exact fun _ => hlist
    | looks | reports | releases => exact nofun
  exact run_induction sink (fun h => h.worker.stage = .finished → h.ring.toList = [])
    (List.replicate n .work) hstep hv (fun h' => absurd h' hworking) hfinished

theorem accounted_run (sink : Sink σ) (state : σ) {capacity : Nat} (hcap : 2 ≤ capacity)
    (ts : List Turn) :
    ((start (.empty capacity .evictOldest) state).run sink ts).Accounted ∧
      ((start (.empty capacity .evictOldest) state).run sink ts).Counted := by
  -- By induction on the turns, from slots at which nothing was done yet.
  have hlist : (Ring.empty capacity .evictOldest).toList = [] :=
    congrArg Queue.items (Ring.toQueue_empty capacity .evictOldest)
  exact run_induction sink (fun h => h.Accounted ∧ h.Counted) ts
    (fun h t _ hv hi => ⟨accounted_step sink h t hv hi.1, counted_step sink h t hi.2⟩)
    (Ring.valid_empty hcap .evictOldest) ⟨accounted_start hlist state, rfl, rfl⟩

/-- Once everything has left the slots, all stored sightings are accounted for exactly if no slot
    was released late. -/
theorem Accounted.all_accounted_iff {h : Handover σ} (hi : h.Accounted)
    (hfinished : h.worker.stage = .finished)
    (hall : h.ledger.departures.length = h.ledger.accepted.length) :
    (∀ i < h.ledger.accepted.length, h.ledger.AccountedFor i) ↔ h.slipped = false := by
  have hn := hi.numbered
  have hslipped : h.slipped = h.ledger.departures.any Departure.late := by
    unfold slipped
    rw [hfinished]
    exact Bool.or_false _
  rw [hslipped, List.any_eq_false]
  constructor
  · -- A late release took a number that was neither reported nor evicted.
    intro haccounted d hd hlate
    obtain ⟨i, hdi⟩ := List.mem_iff_getElem?.1 hd
    cases d with
    | evicted => cases hlate
    | released k m =>
      have hlt : i < h.ledger.departures.length := (List.getElem?_eq_some_iff.1 hdi).1
      have hmem : i ∈ h.ledger.reported := by
        rcases haccounted i (by omega) with hmem | hevicted
        · exact hmem
        · rw [hdi] at hevicted
          cases hevicted
      have hzero := (hn.released i k m hdi).2.2.1 hmem
      rw [hzero] at hlate
      cases hlate
  · -- With all releases on time, each took the number that was looked at, and reported.
    intro hontime i hlt
    have hsome : h.ledger.departures[i]? = some h.ledger.departures[i] :=
      List.getElem?_eq_getElem (by omega)
    generalize h.ledger.departures[i] = d at hsome
    cases d with
    | evicted => exact .inr hsome
    | released k m =>
      have hzero : m = 0 := by
        have := hontime _ (List.mem_of_getElem? hsome)
        simpa [Departure.late] using this
      exact .inl ((hn.released i k m hsome).2.2.2 hzero)

/-- Where the oldest sighting makes room, sightings leave the slots in the order of their numbers,
    and the sink has the state and gave the answers that come of the reported sightings. Once the
    worker has returned after the close, every stored sighting has left, and as many were evicted as
    overruns were counted. The numbers in the ledger are those of the sightings that the sink was
    given. A release took number `k + m`, where `k` was looked at last and `m` sightings were evicted
    since, and it lost that sighting unless `m` is zero. So every stored sighting was reported or
    evicted exactly if none was evicted while the worker was busy with one. -/
theorem all_accounted_iff_not_overtaken (sink : Sink σ) (state : σ) {capacity : Nat}
    (hcap : 2 ≤ capacity) :
    (∀ memory, Ring.Fits capacity memory →
      Ring.create capacity .evictOldest memory = .ok (.empty capacity .evictOldest)) ∧
    (∀ (turns : List Turn) (h : Handover σ),
      h = (start (.empty capacity .evictOldest) state).run sink turns →
        h.ring.toList = h.ledger.accepted.drop h.ledger.departures.length ∧
        h.worker.state = (sink.reportAll state (reportedIn h.acts)).1 ∧
        answersIn h.acts = (sink.reportAll state (reportedIn h.acts)).2.1) ∧
    ∀ (before : List Turn) (n : Nat) (h : Handover σ), .close ∉ before →
      h = (start (.empty capacity .evictOldest) state).run sink (untilClosed before n) →
      h.worker.stage = .finished →
        h.ledger.departures.length = h.ledger.accepted.length ∧
        h.ring.overruns = h.ledger.departures.count .evicted ∧
        (reportedIn h.acts).map some = h.ledger.reported.map (fun k => h.ledger.accepted[k]?) ∧
        (∀ i k m, h.ledger.departures[i]? = some (.released k m) →
          i = k + m ∧ k ∈ h.ledger.reported ∧ (h.ledger.AccountedFor i ↔ m = 0)) ∧
        ((∀ i < h.ledger.accepted.length, h.ledger.AccountedFor i) ↔
          overtaken sink (start (.empty capacity .evictOldest) state) (untilClosed before n) =
            false) := by
  refine ⟨fun _ => Ring.create_eq_empty hcap .evictOldest, ?_, ?_⟩
  · rintro turns h rfl
    have hheard := hears_run sink (.empty capacity .evictOldest) state turns
    exact ⟨(accounted_run sink state hcap turns).1.numbered.pending_eq.symm, hheard.state_eq,
      hheard.answers_eq⟩
  rintro before n h hbefore rfl hfinished
  obtain ⟨hi, hcounted⟩ := accounted_run sink state hcap (untilClosed before n)
  have hvalid := Ring.valid_empty hcap .evictOldest
  -- The worker returned after the close, when nothing was pending.
  have hnil : ((start (.empty capacity .evictOldest) state).run sink
      (untilClosed before n)).ring.toList = [] := by
    unfold untilClosed at hfinished ⊢
    rw [run_append, run_cons] at hfinished ⊢
    exact nothing_pending_of_finished sink (valid_step sink (valid_run sink hvalid before) .close)
      (working_while_open sink hvalid rfl Stage.noConfusion hbefore) n hfinished
  generalize hrun : (start (.empty capacity .evictOldest) state).run sink (untilClosed before n) = h
    at hi hcounted hnil hfinished
  have hall : h.ledger.departures.length = h.ledger.accepted.length := by
    have hpending := hi.numbered.pending_eq
    rw [hnil, List.drop_eq_nil_iff] at hpending
    exact Nat.le_antisymm hi.numbered.departures_le hpending
  refine ⟨hall, hcounted.overruns_eq, hi.told, ?_, ?_⟩
  · intro i k m hreleased
    obtain ⟨hik, hk, hiff⟩ := hi.numbered.released i k m hreleased
    refine ⟨hik, hk, ?_⟩
    unfold Ledger.AccountedFor
    rw [hreleased, or_iff_left (by simp), hiff]
  · rw [hi.all_accounted_iff hfinished hall, ← hrun, slipped_run sink hvalid]
    exact Iff.rfl

/-- Two slots and two sightings, the first of which is reported and released before the second is
    stored. -/
theorem all_accounted_with_two_slots :
    ∃ r, Ring.create 2 .evictOldest = .ok r ∧
      ∃ h, h = (start r []).run (Sink.collect none)
          (untilClosed [.push true (.unknown ⟨2, 0, 0, 0, 0, 1⟩ .epoch none),
            .push true (.unknown ⟨2, 0, 0, 0, 0, 2⟩ .epoch none), .work, .work, .work] 1) ∧
        h.worker.stage = .finished ∧ h.ledger.departures = [.evicted, .released 1 0] ∧
        ∀ i < h.ledger.accepted.length, h.ledger.AccountedFor i := by
  obtain ⟨hcreate, -, hall⟩ :=
    all_accounted_iff_not_overtaken (Sink.collect none) [] (show 2 ≤ 2 by decide)
  refine ⟨_, hcreate _ (by decide), _, rfl, by decide, by decide, ?_⟩
  refine (hall [.push true (.unknown ⟨2, 0, 0, 0, 0, 1⟩ .epoch none),
    .push true (.unknown ⟨2, 0, 0, 0, 0, 2⟩ .epoch none), .work, .work, .work] 1 _ ?_ rfl ?_
    ).2.2.2.2.2 ?_ <;> decide

/-- Two slots and two sightings. The worker reports the first, but it has been evicted meanwhile, so
    that the worker releases the second. That one is never reported, and the only overrun is that of
    the first. -/
theorem sighting_lost_with_two_slots :
    ∃ r, Ring.create 2 .evictOldest = .ok r ∧
      ∃ h, h = (start r []).run (Sink.collect none)
          (untilClosed [.push true (.unknown ⟨2, 0, 0, 0, 0, 1⟩ .epoch none), .work,
            .push true (.unknown ⟨2, 0, 0, 0, 0, 2⟩ .epoch none), .work, .work] 1) ∧
        h.worker.stage = .finished ∧ h.ledger.accepted.length = 2 ∧
        h.ledger.departures = [.evicted, .released 0 1] ∧ h.ring.overruns = 1 ∧
        ¬ h.ledger.AccountedFor 1 := by
  refine ⟨_, rfl, _, rfl, ?_⟩
  decide

end Handover

end LanWatch
