import LanWatch.Bytes
import LanWatch.Text.Digits

namespace LanWatch

/-!
# Reading a captured frame

A captured frame may be cut anywhere, so every read is checked against the bytes that are there.

* `DecodeError` — why decoding a frame stopped;
* `Cursor` — a position within one layer of a frame;
* `Cursor.take`, `Cursor.u8`, `Cursor.u16`, `Cursor.skip` — the reads;
* `Cursor.take_eq_ok_iff`, `Cursor.take_eq_error_iff` — a read gives the next bytes and moves past
  them, or says how many are missing;
* `Cursor.take_append`, `Cursor.skip_append` — reading bytes that are known to come next.
-/

/-- Why decoding a frame stopped. -/
inductive DecodeError where
  /-- A read of `needed` bytes at `offset` within a layer found only `available`. -/
  | truncated (layer : String) (offset needed available : Nat)
  /-- A field of `length` bytes is longer than a record can hold. -/
  | fieldTooLong (field : String) (length capacity : Nat)
  deriving DecidableEq

/-- The wording of an error. -/
def DecodeError.message : DecodeError → String
  | truncated layer offset needed available =>
    layer ++ ": truncated at offset " ++ Text.decimal offset ++ " (need " ++ Text.decimal needed ++
      " bytes, have " ++ Text.decimal available ++ ")"
  | fieldTooLong field length capacity =>
    field ++ ": " ++ Text.decimal length ++ " bytes exceeds capacity of " ++ Text.decimal capacity

/-- A position within one layer of a frame. -/
structure Cursor where
  /-- The name of the layer, for errors. -/
  layer : String
  /-- How many bytes of the layer lie behind. -/
  offset : Nat
  /-- The bytes that lie ahead. -/
  rest : Bytes
  deriving DecidableEq

namespace Cursor

/-- The start of a layer. -/
def start (layer : String) (data : Bytes) : Cursor :=
  ⟨layer, 0, data⟩

/-- How many bytes lie ahead. -/
def remaining (c : Cursor) : Nat :=
  c.rest.length

/-- No bytes lie ahead. -/
def atEnd (c : Cursor) : Bool :=
  c.rest.isEmpty

/-- The error of a read of `needed` bytes here. -/
def short (c : Cursor) (needed : Nat) : DecodeError :=
  .truncated c.layer c.offset needed c.remaining

/-- The cursor `n` bytes further on. -/
def advance (c : Cursor) (n : Nat) : Cursor :=
  ⟨c.layer, c.offset + n, c.rest.drop n⟩

/-- Reads the next `n` bytes. -/
def take (c : Cursor) (n : Nat) : Except DecodeError (Bytes × Cursor) :=
  if n ≤ c.remaining then .ok (c.rest.take n, c.advance n) else .error (c.short n)

/-- Passes over the next `n` bytes. -/
def skip (c : Cursor) (n : Nat) : Except DecodeError Cursor :=
  (c.take n).map (·.2)

/-- Reads one byte. -/
def u8 (c : Cursor) : Except DecodeError (UInt8 × Cursor) :=
  match c.rest with
  | b :: _ => .ok (b, c.advance 1)
  | _ => .error (c.short 1)

/-- Reads a 16-bit number, high byte first. -/
def u16 (c : Cursor) : Except DecodeError (UInt16 × Cursor) :=
  match c.rest with
  | hi :: lo :: _ => .ok (be16 hi lo, c.advance 2)
  | _ => .error (c.short 2)

/-! ### What a read does -/

/-- A layer has ended where nothing lies ahead. -/
theorem atEnd_iff {c : Cursor} : c.atEnd = true ↔ c.remaining = 0 := by
  simp [atEnd, remaining]

theorem not_atEnd_cons (layer : String) (offset : Nat) (b : UInt8) (rest : Bytes) :
    ¬(⟨layer, offset, b :: rest⟩ : Cursor).atEnd = true :=
  Bool.false_ne_true

/-- Moving on leaves fewer bytes ahead, down to none. -/
theorem advance_remaining (c : Cursor) (n : Nat) : (c.advance n).remaining = c.remaining - n := by
  simp [advance, remaining]

/-- A read succeeds exactly if enough bytes lie ahead, and then gives these and moves past them. -/
theorem take_eq_ok_iff {c c' : Cursor} {n : Nat} {bytes : Bytes} :
    c.take n = .ok (bytes, c') ↔
      n ≤ c.remaining ∧ bytes = c.rest.take n ∧ c' = c.advance n := by
  by_cases h : n ≤ c.remaining
  · simp [take, h, eq_comm]
  · simp [take, h]

/-- A read fails exactly if too few bytes lie ahead, and then tells how many. -/
theorem take_eq_error_iff {c : Cursor} {n : Nat} {e : DecodeError} :
    c.take n = .error e ↔ c.remaining < n ∧ e = c.short n := by
  by_cases h : n ≤ c.remaining
  · simp [take, h, Nat.not_lt.2 h]
  · simp [take, h, Nat.lt_of_not_le h, eq_comm]

/-- Bytes that come next are read, and what follows them lies ahead. -/
theorem take_append (layer : String) (offset : Nat) (bytes rest : Bytes) {n : Nat}
    (h : bytes.length = n) :
    (⟨layer, offset, bytes ++ rest⟩ : Cursor).take n =
      .ok (bytes, ⟨layer, offset + n, rest⟩) := by
  subst h
  exact take_eq_ok_iff.2 ⟨by simp [remaining], by simp, by simp [advance]⟩

/-- Bytes that come next are passed over. -/
theorem skip_append (layer : String) (offset : Nat) (bytes rest : Bytes) {n : Nat}
    (h : bytes.length = n) :
    (⟨layer, offset, bytes ++ rest⟩ : Cursor).skip n = .ok ⟨layer, offset + n, rest⟩ := by
  rw [skip, take_append layer offset bytes rest h]
  rfl

/-- A successful read leaves exactly the bytes that it did not give. -/
theorem remaining_of_take {c c' : Cursor} {n : Nat} {bytes : Bytes}
    (h : c.take n = .ok (bytes, c')) : c'.remaining + n = c.remaining := by
  obtain ⟨hn, -, rfl⟩ := take_eq_ok_iff.1 h
  rw [advance_remaining]
  omega

/-- A byte that was read lies ahead no more. -/
theorem remaining_of_u8 {c c' : Cursor} {b : UInt8} (h : c.u8 = .ok (b, c')) :
    c'.remaining + 1 = c.remaining := by
  unfold u8 at h
  split at h
  · simp only [Except.ok.injEq, Prod.mk.injEq] at h
    obtain ⟨-, rfl⟩ := h
    simp_all [advance, remaining]
  · simp at h

end Cursor

example : (Cursor.start "test" [1, 2, 3]).u16 = .ok (0x0102, ⟨"test", 2, [3]⟩) := rfl
example : (Cursor.start "test" [1]).u16 = .error (.truncated "test" 0 2 1) := rfl

end LanWatch
