import LanWatch.Pending.Ring

namespace LanWatch.Ring

/-!
# How pending sightings lie in the slots

The slots are used in turn, and after the last one the first comes again. So the pending sightings
lie in the slots from `tail` on, at most once around, and `head` is the slot after the last of them.

* `Cursors`, `Laid` — the cursors point into the slots, and the slots between them are occupied;
* `toList_write`, `toList_discard`, `front?_eq_head?` — what writing, discarding and looking mean
  for the list of pending sightings;
* `holdsSame_eq_any` — the walk over the slots looks at every pending sighting.
-/

variable {r : Ring}

/-! ### Positions -/

/-- The cursors point into the slots. -/
structure Cursors (r : Ring) : Prop where
  head_lt : r.head < r.capacity
  tail_lt : r.tail < r.capacity

/-- One slot always stays empty. -/
theorem size_lt_capacity (h : r.Cursors) : r.size < r.capacity := by
  have := h.head_lt
  have := h.tail_lt
  unfold size
  split <;> omega

/-- The cursors meet only where nothing is pending, since the slots are never all taken. -/
theorem isEmpty_iff_size_eq_zero (h : r.Cursors) : r.isEmpty = true ↔ r.size = 0 := by
  have := h.head_lt
  have := h.tail_lt
  unfold isEmpty size
  rw [beq_iff_eq]
  split <;> omega

/-- The slots are full with one of them still empty. -/
theorem cursorsMeet_iff (h : r.Cursors) : r.cursorsMeet = true ↔ r.size + 1 = r.capacity := by
  have := h.head_lt
  have := h.tail_lt
  unfold cursorsMeet size
  simp only [Bool.or_eq_true, Bool.and_eq_true, beq_iff_eq]
  split <;> omega

/-- The oldest pending sighting is at the tail. -/
theorem slotAt_zero (h : r.Cursors) : r.slotAt 0 = r.tail := by
  have := h.tail_lt
  unfold slotAt
  split <;> omega

/-- The slot behind the newest pending sighting is that of the next store. -/
theorem slotAt_size (h : r.Cursors) : r.slotAt r.size = r.head := by
  have := h.head_lt
  have := h.tail_lt
  unfold slotAt size
  split <;> split <;> omega

/-- Counting from the tail never leaves the slots, whether it wraps around or not. -/
theorem slotAt_lt (h : r.Cursors) {k : Nat} (hk : k < r.capacity) : r.slotAt k < r.capacity := by
  have := h.tail_lt
  unfold slotAt
  split <;> omega

/-- The slot after a slot is a slot. -/
theorem next_lt (h : r.Cursors) {index : Nat} (hi : index < r.capacity) :
    r.next index < r.capacity := by
  have := h.tail_lt
  unfold next
  split <;> omega

/-- Going on by one slot is counting one further from the tail. -/
theorem next_slotAt (h : r.Cursors) {k : Nat} (hk : k < r.capacity) :
    r.next (r.slotAt k) = r.slotAt (k + 1) := by
  have := h.tail_lt
  -- Each case says of one position whether it has come around.
  unfold next slotAt
  split <;> split <;> split <;> omega

/-- Less than once around, no slot is met twice. -/
theorem slotAt_inj (h : r.Cursors) {j k : Nat} (hj : j < r.capacity) (hk : k < r.capacity)
    (he : r.slotAt j = r.slotAt k) : j = k := by
  have := h.tail_lt
  unfold slotAt at he
  split at he <;> split at he <;> omega

/-! ### What storing and discarding do to the cursors -/

@[simp] theorem capacity_write (r : Ring) (s : Sighting) : (r.write s).capacity = r.capacity := by
  simp [write, capacity]

@[simp] theorem head_write (r : Ring) (s : Sighting) : (r.write s).head = r.next r.head := rfl

@[simp] theorem tail_write (r : Ring) (s : Sighting) : (r.write s).tail = r.tail := rfl

@[simp] theorem slotAt_write (r : Ring) (s : Sighting) (k : Nat) :
    (r.write s).slotAt k = r.slotAt k := by
  unfold slotAt
  rw [capacity_write, tail_write]

@[simp] theorem capacity_discard (r : Ring) : r.discard.capacity = r.capacity := by
  simp [discard, capacity]

@[simp] theorem head_discard (r : Ring) : r.discard.head = r.head := rfl

@[simp] theorem tail_discard (r : Ring) : r.discard.tail = r.next r.tail := rfl

/-- After a discard every place is one nearer to the tail. -/
theorem slotAt_discard (h : r.Cursors) {k : Nat} (hk : k < r.capacity) :
    r.discard.slotAt k = r.slotAt (k + 1) := by
  have := h.tail_lt
  unfold slotAt
  rw [capacity_discard, tail_discard]
  unfold next
  split <;> split <;> split <;> omega

/-- After a store the head is still a slot, which is all that is asked of it. -/
theorem cursors_write (h : r.Cursors) (s : Sighting) : (r.write s).Cursors := by
  constructor
  · rw [capacity_write, head_write]
    exact next_lt h h.head_lt
  · rw [capacity_write, tail_write]
    exact h.tail_lt

/-- After a discard the tail is still a slot. -/
theorem cursors_discard (h : r.Cursors) : r.discard.Cursors := by
  constructor
  · rw [capacity_discard, head_discard]
    exact h.head_lt
  · rw [capacity_discard, tail_discard]
    exact next_lt h h.tail_lt

/-- A store that finds room makes one sighting more, wherever the head stands. -/
theorem size_write (h : r.Cursors) (s : Sighting) (hroom : r.size + 1 < r.capacity) :
    (r.write s).size = r.size + 1 := by
  have := h.head_lt
  have := h.tail_lt
  unfold size at hroom ⊢
  rw [capacity_write, head_write, tail_write]
  unfold next
  split at hroom <;> split <;> split <;> omega

/-- A discard that finds a sighting makes one less, wherever the tail stands. -/
theorem size_discard (h : r.Cursors) (hne : r.size ≠ 0) : r.discard.size = r.size - 1 := by
  have := h.head_lt
  have := h.tail_lt
  unfold size at hne ⊢
  rw [capacity_discard, head_discard, tail_discard]
  unfold next
  split at hne <;> split <;> split <;> omega

/-! ### What storing and discarding do to the slots -/

/-- A store writes to the slot at the head. -/
theorem content_write_self (h : r.Cursors) (s : Sighting) :
    (r.write s).content r.head = some s := by
  have hlt : r.head < r.slots.size := h.head_lt
  simp [content, write, hlt]

/-- A store writes to no other slot. -/
theorem content_write_of_ne {s : Sighting} {index : Nat} (hne : index ≠ r.head) :
    (r.write s).content index = r.content index := by
  simp [content, write, hne.symm]

/-- A discard empties the slot at the tail. -/
theorem content_discard_self (r : Ring) : r.discard.content r.tail = none := by
  by_cases hlt : r.tail < r.slots.size <;>
    simp [content, discard, hlt]

/-- A discard empties no other slot. -/
theorem content_discard_of_ne {index : Nat} (hne : index ≠ r.tail) :
    r.discard.content index = r.content index := by
  simp [content, discard, hne.symm]

/-! ### The slots that are occupied -/

/-- The cursors point into at least two slots, and a slot holds a sighting exactly if it lies from
    `tail` on and before `head`. -/
structure Laid (r : Ring) : Prop extends Cursors r where
  two_le : 2 ≤ r.capacity
  occupied : ∀ index < r.capacity,
    (r.content index).isSome ↔ ∃ offset < r.size, r.slotAt offset = index

/-- A place that is counted as pending holds a sighting. -/
theorem Laid.content_isSome (h : r.Laid) {k : Nat} (hk : k < r.size) :
    (r.content (r.slotAt k)).isSome := by
  have hlt : k < r.capacity := Nat.lt_trans hk (size_lt_capacity h.toCursors)
  exact (h.occupied _ (slotAt_lt h.toCursors hlt)).2 ⟨k, hk, rfl⟩

/-- What was pending stays where it was, and the new sighting comes after it. -/
theorem laid_write (h : r.Laid) (s : Sighting) (hroom : r.size + 1 < r.capacity) :
    (r.write s).Laid := by
  refine ⟨cursors_write h.toCursors s, ?_, ?_⟩
  · rw [capacity_write]
    exact h.two_le
  · intro index hi
    rw [capacity_write] at hi
    simp only [slotAt_write, size_write h.toCursors s hroom]
    by_cases he : index = r.head
    · subst he
      rw [content_write_self h.toCursors]
      exact ⟨fun _ => ⟨r.size, by omega, slotAt_size h.toCursors⟩, fun _ => rfl⟩
    · rw [content_write_of_ne he, h.occupied index hi]
      constructor
      · rintro ⟨k, hk, rfl⟩
        exact ⟨k, by omega, rfl⟩
      · rintro ⟨k, hk, rfl⟩
        -- The one new position is that of `head`.
        have hne : k ≠ r.size := by
          rintro rfl
          exact he (slotAt_size h.toCursors)
        exact ⟨k, by omega, rfl⟩

/-- What stays pending holds what it held, one place nearer to the tail. -/
theorem laid_discard (h : r.Laid) (hne : r.size ≠ 0) : r.discard.Laid := by
  have hsize := size_lt_capacity h.toCursors
  refine ⟨cursors_discard h.toCursors, ?_, ?_⟩
  · rw [capacity_discard]
    exact h.two_le
  · intro index hi
    rw [capacity_discard] at hi
    rw [size_discard h.toCursors hne]
    by_cases he : index = r.tail
    · subst he
      rw [content_discard_self]
      constructor
      · intro hs
        simp at hs
      · rintro ⟨k, hk, hslot⟩
        rw [slotAt_discard h.toCursors (by omega), ← slotAt_zero h.toCursors] at hslot
        have := slotAt_inj h.toCursors (by omega) (by omega) hslot
        omega
    · rw [content_discard_of_ne he, h.occupied index hi]
      constructor
      · rintro ⟨k, hk, rfl⟩
        have hk0 : k ≠ 0 := by
          rintro rfl
          exact he (slotAt_zero h.toCursors)
        refine ⟨k - 1, by omega, ?_⟩
        rw [slotAt_discard h.toCursors (by omega), Nat.sub_add_cancel (by omega)]
      · rintro ⟨k, hk, rfl⟩
        exact ⟨k + 1, by omega, (slotAt_discard h.toCursors (by omega)).symm⟩

/-! ### The list of pending sightings -/

/-- A selection that drops nothing is a plain image. -/
private theorem map_some_filterMap {α β : Type} {f : α → Option β} {l : List α}
    (h : ∀ a ∈ l, (f a).isSome) : (l.filterMap f).map some = l.map f := by
  induction l with
  | nil => rfl
  | cons a l ih =>
    obtain ⟨b, hb⟩ := Option.isSome_iff_exists.1 (h a List.mem_cons_self)
    have htail := ih fun x hx => h x (List.mem_cons_of_mem a hx)
    rw [List.filterMap_cons_some hb, List.map_cons, List.map_cons, htail, hb]

/-- The pending sightings are what the slots from `tail` on hold. -/
theorem map_some_toList (h : r.Laid) :
    r.toList.map some = (List.range r.size).map fun k => r.content (r.slotAt k) := by
  unfold toList
  apply map_some_filterMap
  intro k hk
  exact h.content_isSome (List.mem_range.1 hk)

/-- No pending place is empty, so the list leaves none out. -/
theorem length_toList (h : r.Laid) : r.toList.length = r.size := by
  have hlen := congrArg List.length (map_some_toList h)
  simpa using hlen

/-- The list has the sightings in the order of their places. -/
theorem getElem?_toList (h : r.Laid) {k : Nat} (hk : k < r.size) :
    r.toList[k]? = r.content (r.slotAt k) := by
  have hget : (r.toList.map some)[k]? = some (r.content (r.slotAt k)) := by
    rw [map_some_toList h, List.getElem?_map, List.getElem?_range hk]
    rfl
  rw [List.getElem?_map] at hget
  cases hx : r.toList[k]? with
  | none =>
    rw [hx] at hget
    cases hget
  | some x =>
    rw [hx] at hget
    exact Option.some.inj hget

/-- The list is empty exactly if the cursors say so. -/
theorem toList_eq_nil_iff (h : r.Laid) : r.toList = [] ↔ r.isEmpty = true := by
  rw [isEmpty_iff_size_eq_zero h.toCursors, ← length_toList h, List.length_eq_zero_iff]

/-- Two lists are equal if their images under `some` are. -/
private theorem eq_of_map_some {α : Type} {l l' : List α} (h : l.map some = l'.map some) :
    l = l' :=
  (List.map_inj_right fun _ _ => Option.some.inj).1 h

/-- Storing appends. -/
theorem toList_write (h : r.Laid) (s : Sighting) (hroom : r.size + 1 < r.capacity) :
    (r.write s).toList = r.toList ++ [s] := by
  apply eq_of_map_some
  rw [map_some_toList (laid_write h s hroom), size_write h.toCursors s hroom, List.range_succ,
    List.map_append, List.map_append, map_some_toList h]
  congr 1
  · -- The slots of the sightings so far are not the one that was written.
    apply List.map_congr_left
    intro k hk
    have hk := List.mem_range.1 hk
    rw [slotAt_write]
    apply content_write_of_ne
    intro he
    rw [← slotAt_size h.toCursors] at he
    have := slotAt_inj h.toCursors (by omega) (by omega) he
    omega
  · rw [List.map_singleton, slotAt_write, slotAt_size h.toCursors, content_write_self h.toCursors]
    rfl

/-- Discarding removes the oldest. -/
theorem toList_discard (h : r.Laid) (hne : r.size ≠ 0) : r.discard.toList = r.toList.tail := by
  have hsize := size_lt_capacity h.toCursors
  apply eq_of_map_some
  rw [map_some_toList (laid_discard h hne), size_discard h.toCursors hne, List.map_tail,
    map_some_toList h]
  -- From the second sighting on, each lies one position nearer to the new `tail`.
  obtain ⟨n, hn⟩ := Nat.exists_eq_succ_of_ne_zero hne
  rw [hn, Nat.succ_sub_one, List.range_succ_eq_map, List.map_cons, List.tail_cons, List.map_map]
  apply List.map_congr_left
  intro k hk
  have hk := List.mem_range.1 hk
  rw [Function.comp_apply, slotAt_discard h.toCursors (by omega)]
  apply content_discard_of_ne
  intro he
  rw [← slotAt_zero h.toCursors] at he
  have := slotAt_inj h.toCursors (by omega) (by omega) he
  omega

/-- A consumer that looks sees the head of the list. -/
theorem front?_eq_head? (h : r.Laid) : r.front? = r.toList.head? := by
  unfold front?
  split
  · rename_i he
    rw [(toList_eq_nil_iff h).2 he]
    rfl
  · rename_i he
    have hne : r.size ≠ 0 := fun h0 => he ((isEmpty_iff_size_eq_zero h.toCursors).2 h0)
    rw [List.head?_eq_getElem?, getElem?_toList h (Nat.pos_of_ne_zero hne),
      slotAt_zero h.toCursors]

/-! ### The walk over the pending sightings -/

/-- A walk that has steps enough to reach `head` looks at everything that lies ahead of it. -/
theorem walkFinds_slotAt (h : r.Laid) (s : Sighting) (steps k : Nat) (hk : k ≤ r.size)
    (hsteps : r.size ≤ k + steps) :
    r.walkFinds s steps (r.slotAt k) = (r.toList.drop k).any (·.same s) := by
  have hsize := size_lt_capacity h.toCursors
  have hlen := length_toList h
  -- At position `k` the walk has passed the first `k` sightings and has steps for the others.
  induction steps generalizing k with
  | zero => rw [walkFinds, List.drop_eq_nil_of_le (by omega), List.any_nil]
  | succ steps ih =>
    rw [walkFinds]
    by_cases he : k = r.size
    · rw [if_pos (he ▸ slotAt_size h.toCursors), List.drop_eq_nil_of_le (by omega), List.any_nil]
    · have hslot : r.slotAt k ≠ r.head := by
        rw [← slotAt_size h.toCursors]
        exact fun heq => he (slotAt_inj h.toCursors (by omega) (by omega) heq)
      have hlt : k < r.toList.length := by omega
      rw [if_neg hslot, next_slotAt h.toCursors (by omega), ih (k + 1) (by omega) (by omega),
        ← getElem?_toList h (by omega), List.getElem?_eq_getElem hlt, List.drop_eq_getElem_cons hlt,
        List.any_cons, Option.any_some]

/-- The walk looks at every pending sighting, and at nothing else. -/
theorem holdsSame_eq_any (h : r.Laid) (s : Sighting) :
    r.holdsSame s = r.toList.any (·.same s) := by
  have hsize := size_lt_capacity h.toCursors
  unfold holdsSame
  rw [← slotAt_zero h.toCursors, walkFinds_slotAt h s r.capacity 0 (by omega) (by omega),
    List.drop_zero]

end LanWatch.Ring
