import LanWatch.Pending.Queue
import LanWatch.Proofs.Pending.Layout

namespace LanWatch

/-!
# The slots behave as a queue

A ring of `n` slots answers every list of requests as a plain list of at most `n - 1` sightings
does.

* `Ring.Valid` — the slots are laid out as they should be, and the flag `full` is true exactly if
  one more store would overrun;
* `Ring.toQueue` — the plain list that a ring stands for;
* `Ring.valid_push`, `Ring.toQueue_push` and their like — one pair for each operation: it keeps
  `Valid`, and it does to the plain list what the queue does;
* `Keeper.run_eq_of_simulates` — keepers that agree on every request agree on lists of them;
* `Keeper.run_ring_eq_run_queue` — a ring that was just set up agrees with the empty queue.
-/

namespace Ring

variable {r : Ring}

/-- The sightings lie in the slots between the cursors, and the flag says truly whether one more
    store would overrun. -/
structure Valid (r : Ring) : Prop extends Laid r where
  full_eq : r.full = r.cursorsMeet

/-- The flag says that all slots but one are taken. -/
theorem Valid.full_iff (h : r.Valid) : r.full = true ↔ r.toList.length + 1 = r.capacity := by
  rw [h.full_eq, cursorsMeet_iff h.toCursors, length_toList h.toLaid]

/-- One slot always stays empty. -/
theorem Valid.length_lt (h : r.Valid) : r.toList.length < r.capacity := by
  rw [length_toList h.toLaid]
  exact size_lt_capacity h.toCursors

/-- What a ring means to those who use it. -/
def toQueue (r : Ring) : Queue :=
  ⟨r.capacity - 1, r.overflow, r.toList, r.overruns, r.closed⟩

/-! ### Empty slots -/

/-- With two slots or more, nothing pending is a valid start, and the flag is down. -/
theorem valid_empty {capacity : Nat} (h : 2 ≤ capacity) (overflow : Overflow) :
    (empty capacity overflow).Valid := by
  have hcap : (empty capacity overflow).capacity = capacity := Array.size_replicate
  refine ⟨⟨⟨?_, ?_⟩, ?_, ?_⟩, ?_⟩
  · show 0 < (empty capacity overflow).capacity
    omega
  · show 0 < (empty capacity overflow).capacity
    omega
  · omega
  · intro index hi
    -- No slot holds anything, and the stretch between head and tail is empty.
    have hsize : (empty capacity overflow).size = 0 := rfl
    rw [hsize]
    constructor
    · intro hs
      have hlt : index < capacity := by omega
      simp [content, empty, hlt] at hs
    · rintro ⟨k, hk, -⟩
      omega
  · -- Without a sighting the slots would count as full only if there were a single one.
    show false = (0 + 1 == 0 || (0 + 1 == (empty capacity overflow).capacity && 0 == 0))
    have hne : (0 + 1 == (empty capacity overflow).capacity) = false := by
      rw [beq_eq_false_iff_ne]
      omega
    rw [hne]
    rfl

/-- The slots hold what a queue with one place less holds, which is nothing. -/
theorem toQueue_empty (capacity : Nat) (overflow : Overflow) :
    (empty capacity overflow).toQueue = .empty (capacity - 1) overflow := by
  have hcap : (empty capacity overflow).capacity = capacity := Array.size_replicate
  unfold toQueue
  rw [hcap]
  rfl

/-! ### Single moves -/

/-- A store that finds room leaves the slots valid. -/
theorem valid_write (h : r.Laid) (s : Sighting) (hroom : r.toList.length + 1 < r.capacity) :
    (r.write s).Valid := by
  rw [length_toList h] at hroom
  exact ⟨laid_write h s hroom, rfl⟩

/-- A store that finds room adds a sighting behind the others. -/
theorem toQueue_write (h : r.Laid) (s : Sighting) (hroom : r.toList.length + 1 < r.capacity) :
    (r.write s).toQueue = r.toQueue.append s := by
  rw [length_toList h] at hroom
  unfold toQueue
  rw [capacity_write, toList_write h s hroom]
  rfl

/-- Something is pending exactly if the list is not empty. -/
theorem size_ne_zero_iff (h : r.Laid) : r.size ≠ 0 ↔ r.toList ≠ [] := by
  rw [← length_toList h, Ne, List.length_eq_zero_iff]

/-- A discard that finds a sighting takes the oldest one. -/
theorem toQueue_discard (h : r.Laid) (hne : r.toList ≠ []) :
    r.discard.toQueue = r.toQueue.release := by
  unfold toQueue
  rw [capacity_discard, toList_discard h ((size_ne_zero_iff h).2 hne)]
  rfl

/-- Counting an overrun moves nothing. -/
theorem Laid.countOverrun (h : r.Laid) : r.countOverrun.Laid :=
  ⟨⟨h.head_lt, h.tail_lt⟩, h.two_le, h.occupied⟩

/-! ### Storing -/

/-- Something is pending in a ring without room. -/
theorem Valid.toList_ne_nil (h : r.Valid) (hfull : ¬ r.toList.length + 1 < r.capacity) :
    r.toList ≠ [] := by
  have htwo := h.two_le
  rw [← List.length_pos_iff]
  omega

/-- A full ring has a sighting to discard, and then room for one more. -/
theorem Valid.evict (h : r.Valid) (hfull : ¬ r.toList.length + 1 < r.capacity) :
    r.countOverrun.discard.Laid ∧ r.countOverrun.discard.toQueue = r.toQueue.countOverrun.release ∧
      r.countOverrun.discard.toList.length + 1 < r.countOverrun.discard.capacity := by
  have hlt := h.length_lt
  have htwo := h.two_le
  have hlaid := h.toLaid.countOverrun
  have hne : r.countOverrun.toList ≠ [] := h.toList_ne_nil hfull
  have hsize := (size_ne_zero_iff hlaid).2 hne
  refine ⟨laid_discard hlaid hsize, toQueue_discard hlaid hne, ?_⟩
  rw [toList_discard hlaid hsize, List.length_tail, capacity_discard]
  show r.toList.length - 1 + 1 < r.capacity
  omega

/-- What storing comes to, in terms of the pending sightings. -/
theorem Valid.push_eq (h : r.Valid) (suppress : Bool) (s : Sighting) :
    r.push suppress s =
      if suppress && r.toList.any (·.same s) then (r, .duplicate)
      else if r.toList.length + 1 < r.capacity then (r.write s, .stored)
      else match r.overflow with
        | .dropNew => (r.countOverrun, .dropped)
        | .evictOldest => (r.countOverrun.discard.write s, .evicted) := by
  have hsup : (suppress && !r.isEmpty && r.holdsSame s) =
      (suppress && r.toList.any (·.same s)) := by
    rw [holdsSame_eq_any h.toLaid]
    -- With nothing pending, nothing says the same.
    cases he : r.isEmpty with
    | false => rw [Bool.not_false, Bool.and_true]
    | true =>
      rw [(toList_eq_nil_iff h.toLaid).2 he, List.any_nil, Bool.and_false, Bool.and_false]
  have hlt := h.length_lt
  unfold push
  rw [hsup]
  -- The flag is set exactly if there is no room, so both sides decide alike.
  by_cases hfull : r.full = true
  · have hlen := h.full_iff.1 hfull
    have hroom : ¬ r.toList.length + 1 < r.capacity := by omega
    cases r.overflow <;> simp only [if_pos hfull, if_neg hroom]
  · have hlen := mt h.full_iff.2 hfull
    rw [if_neg hfull, if_pos (by omega : r.toList.length + 1 < r.capacity)]

/-- The four ways that storing can go, and the moves that each is made of. -/
theorem Valid.push_moves (h : r.Valid) (suppress : Bool) (s : Sighting) :
    r.push suppress s = (r, .duplicate) ∨
    r.overflow = .dropNew ∧ r.push suppress s = (r.countOverrun, .dropped) ∨
    r.toList.length + 1 < r.capacity ∧ r.push suppress s = (r.write s, .stored) ∨
    r.overflow = .evictOldest ∧ ¬ r.toList.length + 1 < r.capacity ∧
      r.push suppress s = (r.countOverrun.discard.write s, .evicted) := by
  rw [h.push_eq]
  -- The steps of a push in order: the check for the same sighting, for room, and the mode.
  split
  · exact .inl rfl
  · split
    · rename_i hroom
      exact .inr (.inr (.inl ⟨hroom, rfl⟩))
    · rename_i hfull
      cases r.overflow with
      | dropNew => exact .inr (.inl ⟨rfl, rfl⟩)
      | evictOldest => exact .inr (.inr (.inr ⟨rfl, hfull, rfl⟩))

/-- A store leaves valid slots valid, whichever way it goes. -/
theorem valid_push (h : r.Valid) (suppress : Bool) (s : Sighting) :
    (r.push suppress s).1.Valid := by
  rcases h.push_moves suppress s with he | ⟨-, he⟩ | ⟨hroom, he⟩ | ⟨-, hfull, he⟩
  · rw [he]
    exact h
  · rw [he]
    exact ⟨h.toLaid.countOverrun, h.full_eq⟩
  · rw [he]
    exact valid_write h.toLaid s hroom
  · rw [he]
    obtain ⟨hlaid, -, hroom⟩ := h.evict hfull
    exact valid_write hlaid s hroom

/-- Storing into the slots does to the list what storing into the queue does. -/
theorem toQueue_push (h : r.Valid) (suppress : Bool) (s : Sighting) :
    ((r.push suppress s).1.toQueue, (r.push suppress s).2) = r.toQueue.push suppress s := by
  have hlimit : r.toList.length < r.capacity - 1 ↔ r.toList.length + 1 < r.capacity := by omega
  rw [h.push_eq, Queue.push, show r.toQueue.limit = r.capacity - 1 from rfl,
    show r.toQueue.items = r.toList from rfl, show r.toQueue.overflow = r.overflow from rfl]
  simp only [hlimit]
  split
  · rfl
  · split
    · rename_i hroom
      rw [toQueue_write h.toLaid s hroom]
    · rename_i hfull
      -- An eviction is a discard, which makes room, and then a write.
      obtain ⟨hlaid, hqueue, hroom⟩ := h.evict hfull
      cases r.overflow with
      | dropNew => rfl
      | evictOldest =>
        show ((r.countOverrun.discard.write s).toQueue, PushOutcome.evicted) = _
        rw [toQueue_write hlaid s hroom, hqueue]

/-- The four ways that storing can go, and what each leaves pending. -/
theorem Valid.push_cases (h : r.Valid) (suppress : Bool) (s : Sighting) :
    ((r.push suppress s).2 = .duplicate ∧ (r.push suppress s).1.toList = r.toList) ∨
    ((r.push suppress s).2 = .dropped ∧ r.overflow = .dropNew ∧
      (r.push suppress s).1.toList = r.toList) ∨
    ((r.push suppress s).2 = .stored ∧ (r.push suppress s).1.toList = r.toList ++ [s]) ∨
    ((r.push suppress s).2 = .evicted ∧ r.overflow = .evictOldest ∧ r.toList ≠ [] ∧
      (r.push suppress s).1.toList = r.toList.tail ++ [s]) := by
  rcases h.push_moves suppress s with he | ⟨ho, he⟩ | ⟨hroom, he⟩ | ⟨ho, hfull, he⟩
  · rw [he]
    exact .inl ⟨rfl, rfl⟩
  · rw [he]
    exact .inr (.inl ⟨rfl, ho, rfl⟩)
  · rw [he]
    exact .inr (.inr (.inl ⟨rfl, congrArg Queue.items (toQueue_write h.toLaid s hroom)⟩))
  · rw [he]
    obtain ⟨hlaid, hqueue, hroom⟩ := h.evict hfull
    -- After an eviction there is room, so the write is that into a free slot.
    have hwrite := toQueue_write hlaid s hroom
    rw [hqueue] at hwrite
    exact .inr (.inr (.inr ⟨rfl, ho, h.toList_ne_nil hfull, congrArg Queue.items hwrite⟩))

/-- A store changes neither the mode nor whether the slots are closed. -/
theorem push_keeps (r : Ring) (suppress : Bool) (s : Sighting) :
    (r.push suppress s).1.overflow = r.overflow ∧ (r.push suppress s).1.closed = r.closed := by
  unfold push
  split
  · exact ⟨rfl, rfl⟩
  · split
    · cases ho : r.overflow with
      | dropNew => exact ⟨ho, rfl⟩
      | evictOldest => exact ⟨ho, rfl⟩
    · exact ⟨rfl, rfl⟩

/-! ### Looking -/

/-- What a consumer that is willing to wait gets, in terms of the pending sightings. -/
theorem Laid.await_eq (h : r.Laid) :
    r.await = match r.toList with
      | s :: _ => .sighting s
      | [] => if r.closed then .over else .waiting := by
  unfold await
  rw [front?_eq_head? h]
  cases r.toList <;> rfl

/-! ### Releasing and flushing -/

/-- A release leaves valid slots valid, also if there is nothing to release. -/
theorem valid_release (h : r.Valid) : r.release.Valid := by
  unfold release
  split
  · exact h
  · rename_i he
    have hsize := size_lt_capacity h.toCursors
    have hne : r.size ≠ 0 := fun h0 => he ((isEmpty_iff_size_eq_zero h.toCursors).2 h0)
    have hlaid := laid_discard h.toLaid hne
    refine ⟨⟨⟨hlaid.head_lt, hlaid.tail_lt⟩, hlaid.two_le, hlaid.occupied⟩, ?_⟩
    -- A slot was just given back, so `head` is not right behind `tail` any more.
    show false = r.discard.cursorsMeet
    have hmeet := mt (cursorsMeet_iff hlaid.toCursors).1
    rw [size_discard h.toCursors hne, capacity_discard] at hmeet
    exact (Bool.eq_false_iff.2 (hmeet (by omega))).symm

/-- Releasing a slot is releasing the head of the queue. -/
theorem toQueue_release (h : r.Valid) : r.release.toQueue = r.toQueue.release := by
  unfold release
  split
  · rename_i he
    have hnil : r.toList = [] := (toList_eq_nil_iff h.toLaid).2 he
    unfold Queue.release toQueue
    rw [hnil]
    rfl
  · rename_i he
    exact toQueue_discard h.toLaid (mt (toList_eq_nil_iff h.toLaid).1 he)

/-- A release takes away the oldest pending sighting, if there is one. -/
theorem toList_release (h : r.Valid) : r.release.toList = r.toList.tail :=
  congrArg Queue.items (toQueue_release h)

/-- A release changes neither the mode nor whether the slots are closed. -/
theorem release_keeps (r : Ring) :
    r.release.overflow = r.overflow ∧ r.release.closed = r.closed := by
  unfold release
  split <;> exact ⟨rfl, rfl⟩

/-- Only stores are counted as overruns. -/
theorem release_overruns (r : Ring) : r.release.overruns = r.overruns := by
  unfold release
  split <;> rfl

/-- Discarding often enough leaves nothing, and touches nothing but slots and `tail`. -/
theorem discardUpTo_spec (n : Nat) (h : r.Laid) (hn : r.toList.length ≤ n) :
    (discardUpTo n r).Laid ∧
      (discardUpTo n r).toQueue = { r.toQueue with items := [] } := by
  induction n generalizing r with
  | zero =>
    -- An empty list has nothing to discard.
    have hnil : r.toList = [] := List.eq_nil_of_length_eq_zero (by omega)
    refine ⟨h, ?_⟩
    show r.toQueue = _
    unfold toQueue
    rw [hnil]
  | succ n ih =>
    unfold discardUpTo
    split
    · rename_i he
      have hnil : r.toList = [] := (toList_eq_nil_iff h).2 he
      refine ⟨h, ?_⟩
      unfold toQueue
      rw [hnil]
    · rename_i he
      have hne := mt (toList_eq_nil_iff h).1 he
      have hsize := (size_ne_zero_iff h).2 hne
      -- One discard takes one sighting, which the bound pays for.
      have hlen : r.discard.toList.length ≤ n := by
        rw [toList_discard h hsize, List.length_tail]
        omega
      obtain ⟨hlaid, hqueue⟩ := ih (laid_discard h hsize) hlen
      rw [toQueue_discard h hne] at hqueue
      exact ⟨hlaid, hqueue⟩

/-- Flushing discards what is pending and clears the flag. -/
theorem flush_spec (h : r.Valid) : r.flush.Valid ∧ r.flush.toQueue = r.toQueue.flush := by
  obtain ⟨hlaid, hqueue⟩ := discardUpTo_spec r.size h.toLaid (Nat.le_of_eq (length_toList h.toLaid))
  refine ⟨⟨⟨⟨hlaid.head_lt, hlaid.tail_lt⟩, hlaid.two_le, hlaid.occupied⟩, ?_⟩, hqueue⟩
  show false = (discardUpTo r.size r).cursorsMeet
  have hnil : (discardUpTo r.size r).toList = [] := congrArg Queue.items hqueue
  have htwo := hlaid.two_le
  have hmeet := mt (cursorsMeet_iff hlaid.toCursors).1
  rw [← length_toList hlaid, hnil] at hmeet
  exact (Bool.eq_false_iff.2 (hmeet (by
    rw [List.length_nil]
    omega))).symm

/-- Closing changes nothing that validity is about. -/
theorem valid_close (h : r.Valid) : r.close.Valid :=
  ⟨⟨⟨h.head_lt, h.tail_lt⟩, h.two_le, h.occupied⟩, h.full_eq⟩

end Ring

/-! ### Lists of requests -/

namespace Keeper

variable {σ τ : Type}

/-- If two keepers agree on every request in related states, and stay related, then they agree on
    every list of requests. -/
theorem run_eq_of_simulates {k : Keeper σ} {l : Keeper τ} (R : σ → τ → Prop)
    (hserve : ∀ x y q, R x y → R (k.serve x q).1 (l.serve y q).1 ∧
      (k.serve x q).2 = (l.serve y q).2)
    (hglance : ∀ x y, R x y → k.glance x = l.glance y) {x : σ} {y : τ} (h : R x y)
    (qs : List Request) : k.run x qs = l.run y qs := by
  induction qs generalizing x y with
  | nil => rfl
  | cons q qs ih =>
    obtain ⟨hnext, hreply⟩ := hserve x y q h
    rw [run, run, hreply, hglance _ _ hnext, ih hnext]

/-- The ring is as it should be and stands for this queue. -/
def Stands (r : Ring) (q : Queue) : Prop :=
  r.Valid ∧ r.toQueue = q

/-- Slots and a queue that stand for each other answer a request alike, and go on doing so. -/
theorem stands_serve (r : Ring) (q : Queue) (request : Request) (h : Stands r q) :
    Stands (ring.serve r request).1 (queue.serve q request).1 ∧
      (ring.serve r request).2 = (queue.serve q request).2 := by
  obtain ⟨h, rfl⟩ := h
  -- The list answers what the slots answer, request by request.
  cases request with
  | push suppress s =>
    have hpush := Ring.toQueue_push h suppress s
    refine ⟨⟨Ring.valid_push h suppress s, congrArg Prod.fst hpush⟩, ?_⟩
    exact congrArg (fun p => Reply.pushed p.2) hpush
  | pop wait =>
    refine ⟨⟨?_, ?_⟩, ?_⟩
    · cases wait <;> exact h
    · cases wait <;> rfl
    · cases wait with
      -- A look that does not wait gives the oldest sighting, or none.
      | false =>
        show Reply.popped r.front? = look false r.closed r.toList.head?
        rw [Ring.front?_eq_head? h.toLaid]
        cases r.toList <;> rfl
      | true =>
        show ofAwaited r.await = look true r.closed r.toList.head?
        rw [h.toLaid.await_eq]
        cases r.toList with
        | nil => cases r.closed <;> rfl
        | cons s ss => rfl
  | release => exact ⟨⟨Ring.valid_release h, Ring.toQueue_release h⟩, rfl⟩
  | flush => exact ⟨Ring.flush_spec h, rfl⟩
  | close => exact ⟨⟨Ring.valid_close h, rfl⟩, rfl⟩

theorem stands_glance (r : Ring) (q : Queue) (h : Stands r q) :
    ring.glance r = queue.glance q := by
  obtain ⟨h, rfl⟩ := h
  have htwo := h.two_le
  have hempty : r.isEmpty = r.toList.isEmpty := by
    rw [Bool.eq_iff_iff, ← Ring.toList_eq_nil_iff h.toLaid, List.isEmpty_iff]
  have hfull : r.full = (r.toList.length == r.capacity - 1) := by
    rw [Bool.eq_iff_iff, h.full_iff, beq_iff_eq]
    omega
  show Glance.mk r.size r.isEmpty r.full r.overruns = Glance.mk r.toList.length r.toList.isEmpty
    (r.toList.length == r.capacity - 1) r.overruns
  rw [← Ring.length_toList h.toLaid, hempty, hfull]

/-- Two slots or more can be set up if memory holds them, and slots that were just set up answer
    every list of requests as the empty queue with one place less does. -/
theorem run_ring_eq_run_queue (capacity : Nat) (overflow : Overflow) (h : 2 ≤ capacity) :
    (∀ memory, Ring.Fits capacity memory →
      Ring.create capacity overflow memory = .ok (.empty capacity overflow)) ∧
    ∀ requests, ring.run (.empty capacity overflow) requests =
      queue.run (.empty (capacity - 1) overflow) requests := by
  refine ⟨fun _ => Ring.create_eq_empty h overflow, ?_⟩
  intro requests
  exact run_eq_of_simulates Stands stands_serve stands_glance
    ⟨Ring.valid_empty h overflow, Ring.toQueue_empty capacity overflow⟩ requests

/-- Two slots hold one sighting. A second one is suppressed, and a third one evicts the first. -/
theorem run_ring_eq_run_queue_with_two_slots :
    2 ≤ 2 ∧ ∃ r, Ring.create 2 .evictOldest = .ok r ∧
      ring.run r [.push true (.unknown ⟨2, 0, 0, 0, 0, 1⟩ .epoch none), .pop false,
          .push true (.unknown ⟨2, 0, 0, 0, 0, 1⟩ .epoch none),
          .push true (.unknown ⟨2, 0, 0, 0, 0, 2⟩ .epoch none), .release, .pop true] =
        [(.pushed .stored, ⟨1, false, true, 0⟩),
          (.popped (some (.unknown ⟨2, 0, 0, 0, 0, 1⟩ .epoch none)), ⟨1, false, true, 0⟩),
          (.pushed .duplicate, ⟨1, false, true, 0⟩), (.pushed .evicted, ⟨1, false, true, 1⟩),
          (.done, ⟨0, true, false, 1⟩), (.waiting, ⟨0, true, false, 1⟩)] := by
  obtain ⟨hcreate, hrun⟩ := run_ring_eq_run_queue 2 .evictOldest (by decide)
  refine ⟨by decide, _, hcreate _ (by decide), ?_⟩
  rw [hrun]
  decide

end Keeper

end LanWatch
