import LanWatch.Sighting
import LanWatch.Text.FixedPoint

namespace LanWatch

/-!
# Pending sightings

Sightings wait in a fixed number of slots between the capture, which stores them, and the sink,
which reports them. `head` is the slot of the next store and `tail` that of the oldest pending
sighting. One slot always stays empty, so that `head = tail` means that nothing is pending.

Storing never waits. When the slots are full the new sighting is dropped or the oldest one is
evicted, and either counts as an overrun. A consumer first looks at the oldest sighting and releases
its slot once it is done with it.

All slots are set up at once, in one piece of memory, so there can be only as many as memory holds.
Overruns are counted without bound.

* `Ring` — the slots and their bookkeeping;
* `Ring.create`, `Ring.Fits` — slots that are set up, and how many there can be;
* `Ring.toList` — the pending sightings, oldest first;
* `Ring.push`, `Ring.front?`, `Ring.release`, `Ring.flush`, `Ring.close` — the operations;
* `Ring.await` — what a consumer that is willing to wait gets;
* `Ring.stats` — how full the slots are.
-/

/-- What happens to a sighting that finds no room. -/
inductive Overflow where
  /-- It is dropped. -/
  | dropNew
  /-- The oldest pending sighting makes room for it. -/
  | evictOldest
  deriving DecidableEq

/-- What became of a sighting that was to be stored. -/
inductive PushOutcome where
  | stored
  /-- Stored, after the oldest pending sighting was discarded. -/
  | evicted
  /-- Discarded, because there was no room. -/
  | dropped
  /-- The same sighting is pending already; nothing was written. -/
  | duplicate
  deriving DecidableEq

/-- Why no slots could be set up. -/
inductive RingError where
  /-- One slot stays empty, so it takes two to hold anything. -/
  | capacityTooSmall (capacity : Nat)
  /-- No piece of memory spans so many slots. -/
  | capacityOverflow
  /-- There is no such piece of memory to be had. -/
  | outOfMemory (bytes : Nat)
  deriving DecidableEq

/-- The wording of an error. -/
def RingError.message : RingError → String
  | capacityTooSmall capacity =>
    "buffer capacity must be at least 2 slots, got " ++ Text.decimal capacity
  | capacityOverflow => "capacity overflow"
  | outOfMemory bytes => "memory allocation of " ++ Text.decimal bytes ++ " bytes failed"

/-- The slots of pending sightings and their bookkeeping. -/
structure Ring where
  slots : Array (Option Sighting)
  /-- The slot of the next store. -/
  head : Nat
  /-- The slot of the oldest pending sighting. -/
  tail : Nat
  /-- The next store will overrun. -/
  full : Bool
  /-- How often a sighting found no room. -/
  overruns : Nat
  /-- No consumer will wait any more. -/
  closed : Bool
  overflow : Overflow
  deriving DecidableEq

namespace Ring

/-- The number of slots, including the one that stays empty. -/
def capacity (r : Ring) : Nat :=
  r.slots.size

/-! ### Setting up -/

/-- Empty slots. -/
def empty (capacity : Nat) (overflow : Overflow) : Ring :=
  ⟨Array.replicate capacity none, 0, 0, false, 0, false, overflow⟩

/-- How many bytes a slot takes: a hardware address, an IP address, a timestamp, a VLAN that may be
    missing, a kind, and three words each for two names and for a list of names. Every slot begins
    at a word. -/
def slotBytes : Nat :=
  (6 + 4 + 16 + 4 + 1 + 3 * (3 * 8) + 7) / 8 * 8

/-- How many bytes the slots take. -/
def bytes (r : Ring) : Nat :=
  r.capacity * slotBytes

/-- The most bytes that one piece of memory spans. -/
def mostBytes : Nat :=
  Nat.pow 2 63 - 1

/-- So many slots fit into one piece of memory, and `memory` bytes are enough for them. -/
def Fits (capacity memory : Nat) : Prop :=
  capacity * slotBytes ≤ mostBytes ∧ capacity * slotBytes ≤ memory

instance (capacity memory : Nat) : Decidable (Fits capacity memory) :=
  inferInstanceAs (Decidable (_ ∧ _))

/-- Empty slots, at least two of them, where a piece of memory has up to `memory` bytes. -/
def create (capacity : Nat) (overflow : Overflow) (memory : Nat := mostBytes) :
    Except RingError Ring :=
  if capacity < 2 then .error (.capacityTooSmall capacity)
  else
    let r := empty capacity overflow
    if mostBytes < r.bytes then .error .capacityOverflow
    else if memory < r.bytes then .error (.outOfMemory r.bytes)
    else .ok r

/-- Slots take the same bytes whether there is anything in them or not. -/
theorem bytes_empty (capacity : Nat) (overflow : Overflow) :
    (empty capacity overflow).bytes = capacity * slotBytes := by
  rw [bytes, Ring.capacity, empty, Array.size_replicate]

/-- Slots are set up if there are at least two of them, and memory holds them. -/
theorem create_eq_ok_iff {capacity memory : Nat} {overflow : Overflow} {r : Ring} :
    create capacity overflow memory = .ok r ↔
      2 ≤ capacity ∧ Fits capacity memory ∧ r = empty capacity overflow := by
  unfold create Fits
  by_cases hfew : capacity < 2
  · rw [if_pos hfew]
    simp [Nat.not_le.2 hfew]
  · simp only [if_neg hfew, bytes_empty]
    -- The two checks of memory, one after the other.
    by_cases hspan : mostBytes < capacity * slotBytes
    · simp [if_pos hspan, Nat.not_le.2 hspan]
    · rw [if_neg hspan]
      by_cases hmemory : memory < capacity * slotBytes
      · simp [if_pos hmemory, Nat.not_le.2 hmemory]
      · simp [if_neg hmemory, Nat.not_lt.1 hfew, Nat.not_lt.1 hspan, Nat.not_lt.1 hmemory, eq_comm]

/-- That many slots are empty at first. -/
theorem create_eq_empty {capacity memory : Nat} (h : 2 ≤ capacity) (overflow : Overflow)
    (hfits : Fits capacity memory) :
    create capacity overflow memory = .ok (empty capacity overflow) :=
  create_eq_ok_iff.2 ⟨h, hfits, rfl⟩

/-- More slots than one piece of memory spans are asked for in vain, however much memory there is. -/
theorem create_of_unspanned {capacity : Nat} (h : 2 ≤ capacity) (overflow : Overflow) (memory : Nat)
    (hspan : mostBytes < capacity * slotBytes) :
    create capacity overflow memory = .error .capacityOverflow := by
  unfold create
  rw [if_neg (Nat.not_lt.2 h)]
  simp only [bytes_empty]
  exact if_pos hspan

/-- Fewer of them are asked for in vain if memory is too short. -/
theorem create_of_short {capacity memory : Nat} (h : 2 ≤ capacity) (overflow : Overflow)
    (hspan : capacity * slotBytes ≤ mostBytes) (hshort : memory < capacity * slotBytes) :
    create capacity overflow memory = .error (.outOfMemory (capacity * slotBytes)) := by
  unfold create
  rw [if_neg (Nat.not_lt.2 h)]
  simp only [bytes_empty]
  rw [if_neg (Nat.not_lt.2 hspan), if_pos hshort]

/-! ### Where things are -/

/-- The slot after a given one; the first follows the last. -/
def next (r : Ring) (index : Nat) : Nat :=
  if index + 1 = r.capacity then 0 else index + 1

/-- Nothing is pending. -/
def isEmpty (r : Ring) : Bool :=
  r.head == r.tail

/-- One more store would make `head` catch up with `tail`: it is right behind `tail`, or at the last
    slot while `tail` is at the first. -/
def cursorsMeet (r : Ring) : Bool :=
  r.head + 1 == r.tail || (r.head + 1 == r.capacity && r.tail == 0)

/-- The number of pending sightings. -/
def size (r : Ring) : Nat :=
  if r.tail ≤ r.head then r.head - r.tail else r.capacity - r.tail + r.head

/-- The slot `offset` places after the oldest pending sighting. -/
def slotAt (r : Ring) (offset : Nat) : Nat :=
  if r.tail + offset < r.capacity then r.tail + offset else r.tail + offset - r.capacity

/-- What a slot holds. -/
def content (r : Ring) (index : Nat) : Option Sighting :=
  (r.slots[index]?).join

/-- The pending sightings, oldest first. -/
def toList (r : Ring) : List Sighting :=
  (List.range r.size).filterMap fun offset => r.content (r.slotAt offset)

/-! ### Operations -/

/-- The oldest pending sighting. It stays pending. -/
def front? (r : Ring) : Option Sighting :=
  if r.isEmpty then none else r.content r.tail

/-- Discards the oldest pending sighting. -/
def discard (r : Ring) : Ring :=
  { r with slots := r.slots.setIfInBounds r.tail none, tail := r.next r.tail }

/-- Writes a sighting into the next slot. -/
def write (r : Ring) (s : Sighting) : Ring :=
  let r := { r with slots := r.slots.setIfInBounds r.head (some s), head := r.next r.head }
  { r with full := r.cursorsMeet }

/-- One of the next `steps` slots from `index` on holds a sighting that says the same as `s`. The
    walk ends at `head`. -/
def walkFinds (r : Ring) (s : Sighting) : Nat → Nat → Bool
  | 0, _ => false
  | steps + 1, index =>
    if index = r.head then false
    else (r.content index).any (·.same s) || walkFinds r s steps (r.next index)

/-- A pending sighting says the same as `s`. -/
def holdsSame (r : Ring) (s : Sighting) : Bool :=
  r.walkFinds s r.capacity r.tail

/-- Counts a sighting that found no room. -/
def countOverrun (r : Ring) : Ring :=
  { r with overruns := r.overruns + 1 }

/-- Stores a sighting. With `suppress`, one that says the same as a pending one is passed over, and
    that is no overrun. -/
def push (r : Ring) (suppress : Bool) (s : Sighting) : Ring × PushOutcome :=
  if suppress && !r.isEmpty && r.holdsSame s then (r, .duplicate)
  else if r.full then
    match r.overflow with
    | .dropNew => (r.countOverrun, .dropped)
    | .evictOldest => (r.countOverrun.discard.write s, .evicted)
  else (r.write s, .stored)

/-- Releases the slot of the oldest pending sighting. -/
def release (r : Ring) : Ring :=
  if r.isEmpty then r else { r.discard with full := false }

/-- Discards `n` pending sightings, or all if there are fewer. -/
def discardUpTo (n : Nat) (r : Ring) : Ring :=
  match n with
  | 0 => r
  | n + 1 => if r.isEmpty then r else discardUpTo n r.discard

/-- Discards every pending sighting. -/
def flush (r : Ring) : Ring :=
  { discardUpTo r.size r with full := false }

/-- Lets no consumer wait any more. What is pending can still be reported. -/
def close (r : Ring) : Ring :=
  { r with closed := true }

/-- What a consumer that is willing to wait gets. -/
inductive Awaited where
  | sighting (s : Sighting)
  /-- Nothing is pending, and nothing will be waited for. -/
  | over
  /-- Nothing is pending yet. -/
  | waiting
  deriving DecidableEq

/-- What a consumer that is willing to wait gets. -/
def await (r : Ring) : Awaited :=
  match r.front? with
  | some s => .sighting s
  | none => if r.closed then .over else .waiting

/-! ### Statistics -/

/-- How full the slots are at one moment. -/
structure Stats where
  pending : Nat
  capacity : Nat
  full : Bool
  overruns : Nat
  deriving DecidableEq

/-- How full the slots are now. -/
def stats (r : Ring) : Stats :=
  ⟨r.size, r.capacity, r.full, r.overruns⟩

/-- The share of the slots that is taken, in percent. -/
def Stats.percentFull (s : Stats) : Float :=
  Float.ofNat s.pending / Float.ofNat s.capacity * 100.0

end Ring

end LanWatch
