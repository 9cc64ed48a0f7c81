import LanWatch.Proofs.Pending.Refinement

namespace LanWatch

/-!
# Which slots are occupied

Whatever is asked of slots that were just set up, the pending sightings stand in a row that may run
over the last slot to the first, and every other slot is empty. So a consumer that looks at the
oldest sighting finds one, a store meets an empty slot, and a slot that is given back is empty.

* `Ring.Between` — the slots from one position on and before another;
* `Ring.InOrder` — cursors, flag and slots are what they should be;
* `Ring.Valid.inOrder` — that holds of every valid ring;
* `Ring.Valid.content_push`, `Ring.Valid.content_flush` and their like — what each operation does to
  a single slot;
* `Keeper.after`, `Keeper.stands_after` — the state that a list of requests leads to;
* `Keeper.inOrder_after` — the slots after any requests.
-/

namespace Ring

variable {r : Ring}

/-- The slots from `tail` on and before `head`, where the first slot follows the last. -/
def Between (tail head index : Nat) : Prop :=
  if tail ≤ head then tail ≤ index ∧ index < head else tail ≤ index ∨ index < head

instance (tail head index : Nat) : Decidable (Between tail head index) :=
  inferInstanceAs (Decidable (if tail ≤ head then tail ≤ index ∧ index < head
    else tail ≤ index ∨ index < head))

/-- Cursors, flag and slots are what they should be: the cursors point into the slots, the flag is
    set exactly if all slots but one are taken, which is also what the cursors tell, and the slots
    from `tail` on and before `head` hold sightings, but no others do. -/
structure InOrder (r : Ring) (capacity : Nat) : Prop where
  length_slots : r.slots.size = capacity
  head_lt : r.head < capacity
  tail_lt : r.tail < capacity
  full_iff : r.full = true ↔ r.size = capacity - 1
  cursorsMeet_iff : r.cursorsMeet = true ↔ r.size = capacity - 1
  occupied_iff : ∀ index < capacity, (r.content index).isSome ↔ Between r.tail r.head index
  size_le : r.size ≤ capacity - 1

/-! ### Between the cursors -/

/-- The slot of the next store is not one of them, and if the cursors meet, then none is. -/
theorem not_between_head (tail head : Nat) : ¬Between tail head head := by
  unfold Between
  split <;> omega

/-- Where the cursors meet there is nothing between them. -/
theorem not_between_self (cursor index : Nat) : ¬Between cursor cursor index := by
  unfold Between
  rw [if_pos (Nat.le_refl cursor)]
  omega

/-- A slot lies between the cursors exactly if it is reached from `tail` in fewer steps than
    `head`. -/
theorem between_iff (h : r.Cursors) {index : Nat} (hi : index < r.capacity) :
    Between r.tail r.head index ↔ ∃ offset < r.size, r.slotAt offset = index := by
  have hhead := h.head_lt
  have htail := h.tail_lt
  unfold Between size slotAt
  by_cases hle : r.tail ≤ r.head
  · rw [if_pos hle, if_pos hle]
    constructor
    · rintro ⟨hge, hlt⟩
      refine ⟨index - r.tail, by omega, ?_⟩
      split <;> omega
    · rintro ⟨k, hk, rfl⟩
      split <;> omega
  · rw [if_neg hle, if_neg hle]
    constructor
    · intro hout
      -- The slots before `head` are those that come around.
      by_cases hge : r.tail ≤ index
      · refine ⟨index - r.tail, by omega, ?_⟩
        split <;> omega
      · refine ⟨r.capacity - r.tail + index, by omega, ?_⟩
        split <;> omega
    · rintro ⟨k, hk, rfl⟩
      split <;> omega

/-- A slot is occupied exactly if it lies between the cursors. -/
theorem Laid.occupied_iff_between (h : r.Laid) {index : Nat} (hi : index < r.capacity) :
    (r.content index).isSome ↔ Between r.tail r.head index := by
  rw [h.occupied index hi, between_iff h.toCursors hi]

/-- The layout in terms of cursors and slots, as it can be observed. -/
theorem Valid.inOrder (h : r.Valid) : r.InOrder r.capacity := by
  -- All the bounds and both readings of the flag come from the distance of the cursors.
  have hroom := size_lt_capacity h.toCursors
  have hmeet : r.cursorsMeet = true ↔ r.size = r.capacity - 1 := by
    rw [Ring.cursorsMeet_iff h.toCursors]
    omega
  exact {
    length_slots := rfl
    head_lt := h.head_lt
    tail_lt := h.tail_lt
    full_iff := by rw [h.full_eq, hmeet]
    cursorsMeet_iff := hmeet
    occupied_iff := fun _ hi => h.occupied_iff_between hi
    size_le := by omega }

/-! ### Single slots -/

/-- A slot that is not between the cursors is empty, and so is one that does not exist. -/
theorem Laid.content_eq_none (h : r.Laid) {index : Nat} (hout : ¬Between r.tail r.head index) :
    r.content index = none := by
  by_cases hi : index < r.capacity
  · rw [← Option.not_isSome_iff_eq_none, h.occupied_iff_between hi]
    exact hout
  · have hnone : r.slots[index]? = none := Array.getElem?_eq_none (Nat.le_of_not_lt hi)
    rw [content, hnone]
    rfl

/-- The slot of the next store is empty. -/
theorem Laid.content_head (h : r.Laid) : r.content r.head = none :=
  h.content_eq_none (not_between_head r.tail r.head)

/-- Where nothing is pending, all slots are empty. -/
theorem Laid.content_of_isEmpty (h : r.Laid) (he : r.isEmpty = true) (index : Nat) :
    r.content index = none := by
  apply h.content_eq_none
  rw [isEmpty, beq_iff_eq] at he
  rw [he]
  exact not_between_self r.tail index

/-- Of an occupied slot, the next store keeps away. -/
theorem Laid.tail_ne_head (h : r.Laid) (hne : r.toList ≠ []) : r.tail ≠ r.head := by
  intro he
  apply hne
  rw [toList_eq_nil_iff h, isEmpty, he, beq_self_eq_true]

/-- A consumer that looks at slots in which something is pending finds it. -/
theorem Laid.exists_front? (h : r.Laid) (hsome : r.isEmpty = false) : ∃ s, r.front? = some s := by
  have hne : r.toList ≠ [] := fun hnil => by
    rw [(toList_eq_nil_iff h).1 hnil] at hsome
    cases hsome
  rw [front?_eq_head? h]
  exact ⟨_, List.head?_eq_some_head hne⟩

/-- Storing changes two slots at most: it fills the one that `head` points to, which was empty, and
    an eviction empties the one of the oldest sighting. -/
theorem Valid.content_push (h : r.Valid) (suppress : Bool) (s : Sighting) (index : Nat) :
    (r.push suppress s).1.content index = r.content index ∨
    index = r.head ∧ r.content index = none ∧ (r.push suppress s).1.content index = some s ∨
    (r.push suppress s).2 = .evicted ∧ index = r.tail ∧
      (r.push suppress s).1.content index = none := by
  rcases h.push_moves suppress s with he | ⟨-, he⟩ | ⟨-, he⟩ | ⟨-, hfull, he⟩
  · rw [he]
    exact .inl rfl
  · rw [he]
    exact .inl rfl
  · rw [he]
    by_cases hhead : index = r.head
    · subst hhead
      exact .inr (.inl ⟨rfl, h.content_head, content_write_self h.toCursors s⟩)
    · exact .inl (content_write_of_ne hhead)
  · rw [he]
    obtain ⟨hlaid, -, -⟩ := h.evict hfull
    by_cases hhead : index = r.head
    · subst hhead
      exact .inr (.inl ⟨rfl, h.content_head, content_write_self hlaid.toCursors s⟩)
    · have hwrite : (r.countOverrun.discard.write s).content index =
          r.countOverrun.discard.content index := content_write_of_ne hhead
      simp only [hwrite]
      -- The discard that makes room touches the slot of the oldest sighting alone.
      by_cases hold : index = r.tail
      · subst hold
        exact .inr (.inr ⟨trivial, rfl, content_discard_self r.countOverrun⟩)
      · exact .inl (content_discard_of_ne hold)

/-- The slot of a sighting that was evicted is empty. -/
theorem Valid.content_tail_of_evicted (h : r.Valid) {suppress : Bool} {s : Sighting}
    (hevicted : (r.push suppress s).2 = .evicted) :
    (r.push suppress s).1.content r.tail = none := by
  rcases h.push_moves suppress s with he | ⟨-, he⟩ | ⟨-, he⟩ | ⟨-, hfull, he⟩
  · rw [he] at hevicted
    cases hevicted
  · rw [he] at hevicted
    cases hevicted
  · rw [he] at hevicted
    cases hevicted
  · have hne := h.tail_ne_head (h.toList_ne_nil hfull)
    have hwrite : (r.countOverrun.discard.write s).content r.tail =
        r.countOverrun.discard.content r.tail := content_write_of_ne hne
    rw [he, hwrite]
    exact content_discard_self r.countOverrun

/-- A slot that was given back is empty. -/
theorem Valid.content_release (h : r.Valid) : r.release.content r.tail = none := by
  unfold release
  split
  · rename_i he
    exact h.content_of_isEmpty he r.tail
  · exact content_discard_self r

/-- Flushed slots are all empty. -/
theorem Valid.content_flush (h : r.Valid) (index : Nat) : r.flush.content index = none := by
  obtain ⟨hvalid, hqueue⟩ := flush_spec h
  have hnil : r.flush.toList = [] := congrArg Queue.items hqueue
  exact hvalid.content_of_isEmpty ((toList_eq_nil_iff hvalid.toLaid).1 hnil) index

end Ring

namespace Keeper

variable {σ : Type}

/-! ### After a list of requests -/

/-- The state that a list of requests leads to. -/
def after (k : Keeper σ) (x : σ) : List Request → σ
  | [] => x
  | q :: qs => k.after (k.serve x q).1 qs

/-- What each of some requests keeps, all of them together keep. -/
theorem after_induct {k : Keeper σ} {P : σ → Prop} {requests : List Request}
    (hserve : ∀ request ∈ requests, ∀ x, P x → P (k.serve x request).1) {x : σ} (h : P x) :
    P (k.after x requests) := by
  induction requests generalizing x with
  | nil => exact h
  | cons request requests ih =>
    have hnext := hserve request List.mem_cons_self x h
    exact ih (fun q hq => hserve q (List.mem_cons_of_mem _ hq)) hnext

/-- Slots that were just set up stand for the empty list. -/
theorem stands_empty {capacity : Nat} (h : 2 ≤ capacity) (overflow : Overflow) :
    Stands (.empty capacity overflow) (.empty (capacity - 1) overflow) :=
  ⟨Ring.valid_empty h overflow, Ring.toQueue_empty capacity overflow⟩

theorem stands_after (requests : List Request) {r : Ring} {q : Queue} (h : Stands r q) :
    Stands (ring.after r requests) (queue.after q requests) := by
  -- By induction on the requests: the slots go on standing for the list.
  induction requests generalizing r q with
  | nil => exact h
  | cons request requests ih => exact ih (stands_serve r q request h).1

/-- No request changes how many sightings a queue takes. -/
theorem limit_serve (q : Queue) (request : Request) :
    (queue.serve q request).1.limit = q.limit := by
  cases request with
  | push suppress s =>
    show (q.push suppress s).1.limit = q.limit
    unfold Queue.push
    split
    · rfl
    · split
      · rfl
      · split <;> rfl
  | pop _ => rfl
  | release => rfl
  | flush => rfl
  | close => rfl

theorem limit_after (requests : List Request) (q : Queue) :
    (queue.after q requests).limit = q.limit :=
  after_induct (P := fun later => later.limit = q.limit)
    (fun request _ later hlimit => (limit_serve later request).trans hlimit) rfl

/-- Slots that were just set up stay valid, and no slot is added or taken away. -/
theorem valid_after {capacity : Nat} (h : 2 ≤ capacity) (overflow : Overflow)
    (requests : List Request) :
    (ring.after (.empty capacity overflow) requests).Valid ∧
      (ring.after (.empty capacity overflow) requests).capacity = capacity := by
  obtain ⟨hvalid, hqueue⟩ := stands_after requests (stands_empty h overflow)
  -- The number of slots is one more than the limit of the list, which no request changes.
  have hlimit := congrArg Queue.limit hqueue
  rw [limit_after] at hlimit
  have htwo := hvalid.two_le
  have hone : (ring.after (.empty capacity overflow) requests).capacity - 1 = capacity - 1 := hlimit
  exact ⟨hvalid, by omega⟩

/-- Whatever was asked of slots that were set up, they are in order. So whoever looks while
    something is pending gets a sighting, willing to wait or not. A store changes no slot but an
    empty one, which it fills, and that of the sighting that it evicts, which it empties. What was
    released, flushed or evicted is not kept in its slot. -/
theorem inOrder_after (capacity : Nat) (overflow : Overflow) (h : 2 ≤ capacity) :
    (∀ memory, Ring.Fits capacity memory →
      Ring.create capacity overflow memory = .ok (.empty capacity overflow)) ∧
    ∀ requests,
      let r := ring.after (.empty capacity overflow) requests
      r.InOrder capacity ∧
      (r.isEmpty = false → ∀ wait, ∃ s, (ring.serve r (.pop wait)).2 = .popped (some s)) ∧
      (∀ suppress s index,
        (r.push suppress s).1.content index = r.content index ∨
        index = r.head ∧ r.content index = none ∧ (r.push suppress s).1.content index = some s ∨
        (r.push suppress s).2 = .evicted ∧ index = r.tail ∧
          (r.push suppress s).1.content index = none) ∧
      (∀ suppress s, (r.push suppress s).2 = .evicted →
        (r.push suppress s).1.content r.tail = none) ∧
      r.release.content r.tail = none ∧
      ∀ index, r.flush.content index = none := by
  refine ⟨fun _ => Ring.create_eq_empty h overflow, fun requests => ?_⟩
  intro r
  obtain ⟨hvalid, hcapacity⟩ := valid_after h overflow requests
  refine ⟨hcapacity ▸ hvalid.inOrder, fun hsome wait => ?_, hvalid.content_push,
    fun suppress s => hvalid.content_tail_of_evicted, hvalid.content_release, hvalid.content_flush⟩
  obtain ⟨s, hs⟩ := hvalid.exists_front? hsome
  refine ⟨s, ?_⟩
  cases wait with
  | false => exact congrArg Reply.popped hs
  | true =>
    show ofAwaited r.await = .popped (some s)
    rw [Ring.await, hs]
    rfl

/-- Three slots of which the first was given up for a third sighting. The two pending ones run up to
    the last slot, and a fourth store would meet the first slot again. -/
theorem inOrder_after_eviction :
    2 ≤ 3 ∧ ∃ r₀, Ring.create 3 .evictOldest = .ok r₀ ∧
      let r := ring.after r₀ [.push true (.unknown ⟨2, 0, 0, 0, 0, 1⟩ .epoch none),
        .push true (.unknown ⟨2, 0, 0, 0, 0, 2⟩ .epoch none), .pop true,
        .push true (.unknown ⟨2, 0, 0, 0, 0, 3⟩ .epoch none)]
      r.InOrder 3 ∧ r.head = 0 ∧ r.tail = 1 ∧ r.isEmpty = false ∧
      (∃ s, (ring.serve r (.pop false)).2 = .popped (some s)) ∧
      (r.push false (.unknown ⟨2, 0, 0, 0, 0, 4⟩ .epoch none)).2 = .evicted ∧
      (r.push false (.unknown ⟨2, 0, 0, 0, 0, 4⟩ .epoch none)).1.content 1 = none := by
  obtain ⟨hcreate, hafter⟩ := inOrder_after 3 .evictOldest (by decide)
  obtain ⟨horder, hpop, -, hevicted, -, -⟩ := hafter
    [.push true (.unknown ⟨2, 0, 0, 0, 0, 1⟩ .epoch none),
      .push true (.unknown ⟨2, 0, 0, 0, 0, 2⟩ .epoch none), .pop true,
      .push true (.unknown ⟨2, 0, 0, 0, 0, 3⟩ .epoch none)]
  exact ⟨by decide, _, hcreate _ (by decide), horder, rfl, rfl, rfl, hpop rfl false, rfl,
    hevicted false _ rfl⟩

end Keeper

end LanWatch
