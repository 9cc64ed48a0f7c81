import LanWatch.Frame.Guarded

namespace LanWatch

/-!
# Reads stay within their domain

A reader whose position lies within its bytes reads what a cursor reads there, and no operation on
the way leaves its domain.

* `Reader.Fits` — the position lies within the bytes, and memory can hold them;
* `Reader.cursor` — the cursor at the position of a reader;
* `Guarded.Gives` — no operation leaves its domain, and this is the outcome;
* `Agrees` — a guarded read gives what a read with a cursor gives;
* `Reader.agrees_readBytes`, `Reader.agrees_readU8`, `Reader.agrees_readU16` — the reads agree.
-/

/-- No stretch of memory is longer than a machine can address. -/
def Bytes.Addressable (bytes : Bytes) : Prop :=
  bytes.length < Nat.pow 2 63

/-! ### Within the domains -/

namespace Guarded

theorem word_of_lt {n : Nat} (h : n < Nat.pow 2 64) : word n = .ok n := if_pos h

theorem sub_of_le {a b : Nat} (h : b ≤ a) : sub a b = .ok (a - b) := if_pos h

/-- A slice between two ends that are in order and within the bytes. -/
theorem slice_of_le {bytes : Bytes} {first last : Nat} (hfirst : first ≤ last)
    (hlast : last ≤ bytes.length) :
    slice bytes first last = .ok ((bytes.take last).drop first) := if_pos ⟨hfirst, hlast⟩

/-- A slice up to the end of the bytes. -/
theorem sliceFrom_of_le {bytes : Bytes} {first : Nat} (h : first ≤ bytes.length) :
    sliceFrom bytes first = .ok (bytes.drop first) := by
  unfold sliceFrom
  rw [slice_of_le h (Nat.le_refl _), List.take_length]

/-- A byte that is there is read. -/
theorem byteAt_of_getElem? {bytes : Bytes} {position : Nat} {b : UInt8}
    (h : bytes[position]? = some b) : byteAt bytes position = .ok b := by
  unfold byteAt
  rw [h]

/-- Bounds in order clamp. -/
theorem clamp_of_le {n least most : Nat} (h : least ≤ most) :
    clamp n least most = .ok (min (max n least) most) := by
  unfold clamp
  rw [if_pos h]
  congr 1
  split
  · omega
  · split <;> omega

variable {α β : Type}

@[simp] theorem liftM_ok (a : α) :
    (liftM (Except.ok a : Except Fault α) : Guarded α) = pure a := rfl

/-- A read that succeeds hands its value on. -/
@[simp] theorem orStop_pure (a : α) (s : Sighting) (next : α → Except Fault Scan) :
    orStop (pure a) s next = next a := rfl

/-- A read that fails stops the scan, and the record is kept as it is. -/
@[simp] theorem orStop_throw (e : DecodeError) (s : Sighting) (next : α → Except Fault Scan) :
    orStop (throw e) s next = .ok ⟨s, some e, []⟩ := rfl

end Guarded

/-! ### Readers and cursors -/

namespace Reader

variable {r : Reader}

/-- The position lies within the bytes, which lie in memory. -/
structure Fits (r : Reader) : Prop where
  position_le : r.position ≤ r.data.length
  addressable : r.data.Addressable

/-- The cursor at the position of a reader. -/
def cursor (r : Reader) : Cursor :=
  ⟨r.layer, r.position, r.data.drop r.position⟩

/-- A reader that begins is at the start of bytes that can be addressed. -/
theorem fits_start (layer : String) {data : Bytes} (h : data.Addressable) :
    (start layer data).Fits :=
  ⟨Nat.zero_le _, h⟩

theorem cursor_start (layer : String) (data : Bytes) :
    (start layer data).cursor = Cursor.start layer data := rfl

/-- What lies ahead of the cursor is what the data has behind the position. -/
theorem remaining_cursor (r : Reader) : r.cursor.remaining = r.data.length - r.position :=
  List.length_drop

/-- The position is never behind the end, so the difference is no fault. -/
theorem Fits.remaining_eq (h : r.Fits) : r.remaining = .ok r.cursor.remaining := by
  unfold remaining
  rw [Guarded.sub_of_le h.position_le, remaining_cursor]

/-- The same for the question whether anything is left. -/
theorem Fits.atEnd_eq (h : r.Fits) : r.atEnd = .ok r.cursor.atEnd := by
  unfold atEnd
  rw [h.remaining_eq]
  show Except.ok (r.cursor.remaining == 0) = _
  congr 1
  rw [Bool.eq_iff_iff, beq_iff_eq, Cursor.atEnd_iff]

end Reader

/-- Nothing on the way leaves its domain, and the outcome is `y`. -/
def Guarded.Gives {α : Type} (x : Guarded α) (y : Except DecodeError α) : Prop :=
  x.run = .ok y

/-- A guarded read gives what a read with a cursor gives, and leaves a reader that fits. -/
def Agrees {α : Type} (x : Guarded (α × Reader)) (y : Except DecodeError (α × Cursor)) : Prop :=
  (∃ a r, r.Fits ∧ x = pure (a, r) ∧ y = .ok (a, r.cursor)) ∨ ∃ e, x = throw e ∧ y = .error e

/-- What follows a read gives the same if it does so wherever the read may end. -/
theorem Agrees.bind {α β : Type} {x : Guarded (α × Reader)} {y : Except DecodeError (α × Cursor)}
    (h : Agrees x y) {f : α × Reader → Guarded β} {g : α × Cursor → Except DecodeError β}
    (hnext : ∀ a r, r.Fits → (f (a, r)).Gives (g (a, r.cursor))) : (x >>= f).Gives (y >>= g) := by
  obtain ⟨a, r, hfits, rfl, rfl⟩ | ⟨e, rfl, rfl⟩ := h
  · exact hnext a r hfits
  · rfl

namespace Reader

variable {r : Reader}

/-- The reader `n` bytes further on. -/
def moved (r : Reader) (n : Nat) : Reader :=
  { r with position := r.position + n }

/-- Moving on by some bytes is advancing the cursor by them. -/
theorem cursor_moved (r : Reader) (n : Nat) : (r.moved n).cursor = r.cursor.advance n := by
  unfold cursor moved Cursor.advance
  rw [List.drop_drop]

/-- A move over bytes that lie ahead stays within the data. -/
theorem fits_moved (h : r.Fits) {n : Nat} (hn : n ≤ r.cursor.remaining) : (r.moved n).Fits := by
  have hposition := h.position_le
  rw [remaining_cursor] at hn
  refine ⟨?_, h.addressable⟩
  show r.position + n ≤ r.data.length
  omega

/-- The bytes that lie ahead can be cut out of all the bytes. -/
theorem slice_ahead (h : r.Fits) {n : Nat} (hn : n ≤ r.cursor.remaining) :
    Guarded.slice r.data r.position (r.position + n) = .ok (r.cursor.rest.take n) := by
  have hposition := h.position_le
  rw [remaining_cursor] at hn
  rw [Guarded.slice_of_le (Nat.le_add_right _ _) (by omega), List.drop_take,
    Nat.add_sub_cancel_left]
  rfl

/-- Nothing leaves its domain as long as less is asked for than a machine can address. -/
theorem readBytes_eq (h : r.Fits) {n : Nat} (hn : n < Nat.pow 2 63) :
    r.readBytes n =
      if n ≤ r.cursor.remaining then pure (r.cursor.rest.take n, r.moved n)
      else throw (r.cursor.short n) := by
  have hposition := h.position_le
  have haddressable : r.data.length < Nat.pow 2 63 := h.addressable
  have hword : Guarded.word (r.position + n) = .ok (r.position + n) :=
    Guarded.word_of_lt (show r.position + n < 2 * Nat.pow 2 63 by omega)
  have hremaining := remaining_cursor r
  unfold readBytes
  rw [hword, h.remaining_eq]
  simp only [Guarded.liftM_ok, pure_bind]
  -- The end of the read lies within the bytes exactly if that many lie ahead.
  by_cases hle : n ≤ r.cursor.remaining
  · have hlast : r.position + n ≤ r.data.length := by omega
    rw [if_pos hle, if_pos hlast, slice_ahead h hle]
    rfl
  · have hlast : ¬ r.position + n ≤ r.data.length := by omega
    rw [if_neg hle, if_neg hlast]
    rfl

/-- A read of fewer bytes than an address space holds is the read of the cursor. -/
theorem agrees_readBytes (h : r.Fits) {n : Nat} (hn : n < Nat.pow 2 63) :
    Agrees (r.readBytes n) (r.cursor.take n) := by
  rw [readBytes_eq h hn]
  unfold Cursor.take
  split
  · rename_i hle
    exact .inl ⟨_, _, fits_moved h hle, rfl, by rw [cursor_moved]⟩
  · exact .inr ⟨_, rfl, rfl⟩

/-- A byte at the position is the first one that lies ahead. -/
theorem agrees_readU8 (h : r.Fits) : Agrees r.readU8 r.cursor.u8 := by
  unfold readU8 Cursor.u8
  rw [readBytes_eq h (by decide)]
  cases hrest : r.cursor.rest with
  | nil =>
    rw [if_neg (by rw [Cursor.remaining, hrest]; decide)]
    exact .inr ⟨_, rfl, rfl⟩
  | cons b rest =>
    have hle : 1 ≤ r.cursor.remaining := by
      rw [Cursor.remaining, hrest]
      exact Nat.le_add_left _ _
    rw [if_pos hle]
    exact .inl ⟨b, _, fits_moved h hle, rfl, by rw [cursor_moved]⟩

/-- Two bytes at the position are the first two that lie ahead. -/
theorem agrees_readU16 (h : r.Fits) : Agrees r.readU16 r.cursor.u16 := by
  unfold readU16 Cursor.u16
  rw [readBytes_eq h (by decide)]
  match hrest : r.cursor.rest with
  | [] =>
    rw [if_neg (by rw [Cursor.remaining, hrest]; decide)]
    exact .inr ⟨_, rfl, rfl⟩
  | [_] =>
    rw [if_neg (by rw [Cursor.remaining, hrest]; exact Nat.not_succ_le_self 1)]
    exact .inr ⟨_, rfl, rfl⟩
  | high :: low :: rest =>
    have hle : 2 ≤ r.cursor.remaining := by
      rw [Cursor.remaining, hrest]
      exact Nat.le_add_left _ _
    rw [if_pos hle]
    exact .inl ⟨be16 high low, _, fits_moved h hle, rfl, by rw [cursor_moved]⟩

/-- What follows after bytes were passed over. -/
theorem gives_skip (h : r.Fits) {n : Nat} (hn : n < Nat.pow 2 63) {β : Type}
    {f : Reader → Guarded β} {g : Cursor → Except DecodeError β}
    (hnext : ∀ r : Reader, r.Fits → (f r).Gives (g r.cursor)) :
    (r.skip n >>= f).Gives (r.cursor.skip n >>= g) := by
  unfold skip Cursor.skip
  obtain ⟨a, r', hfits, hx, hy⟩ | ⟨e, hx, hy⟩ := agrees_readBytes h hn
  · rw [hx, hy]
    exact hnext r' hfits
  · rw [hx, hy]
    rfl

end Reader

end LanWatch
