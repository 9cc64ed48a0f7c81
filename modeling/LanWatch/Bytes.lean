namespace LanWatch

/-!
# Bytes

A captured frame, and every part of one, is a list of bytes in the order in which they were
received.

* `Bytes` — a stretch of captured bytes;
* `be16` — the number that two bytes spell on the wire, high byte first;
* `highByte`, `lowByte` — the two bytes that spell a number;
* `Bytes.untilByte` — the part of a field before a terminating byte.
-/

/-- A stretch of captured bytes, first byte first. -/
abbrev Bytes := List UInt8

/-- The 16-bit number whose high byte is `hi` and whose low byte is `lo`. -/
def be16 (hi lo : UInt8) : UInt16 :=
  UInt16.ofNat (hi.toNat * 256 + lo.toNat)

/-- Two bytes spell every number below `65536` exactly once. -/
theorem be16_toNat (hi lo : UInt8) : (be16 hi lo).toNat = hi.toNat * 256 + lo.toNat := by
  have h₁ := hi.toNat_lt
  have h₂ := lo.toNat_lt
  simp only [be16, UInt16.toNat_ofNat']
  omega

/-- Two pairs of bytes spell the same number only if they are the same. -/
theorem be16_inj {hi lo hi' lo' : UInt8} : be16 hi lo = be16 hi' lo' ↔ hi = hi' ∧ lo = lo' := by
  constructor
  · intro h
    have hnumber := congrArg UInt16.toNat h
    rw [be16_toNat, be16_toNat] at hnumber
    have h₁ := lo.toNat_lt
    have h₂ := lo'.toNat_lt
    exact ⟨UInt8.toNat_inj.1 (by omega), UInt8.toNat_inj.1 (by omega)⟩
  · rintro ⟨rfl, rfl⟩
    rfl

/-- The first of the two bytes that spell a number. -/
def highByte (n : UInt16) : UInt8 :=
  UInt8.ofNat (n.toNat / 256)

/-- The second of the two bytes that spell a number. -/
def lowByte (n : UInt16) : UInt8 :=
  UInt8.ofNat (n.toNat % 256)

/-- The two bytes of a number make it up again. -/
theorem be16_high_low (n : UInt16) : be16 (highByte n) (lowByte n) = n := by
  have h := n.toNat_lt
  apply UInt16.toNat_inj.1
  rw [be16_toNat, highByte, lowByte, UInt8.toNat_ofNat', UInt8.toNat_ofNat']
  omega

theorem highByte_be16 (hi lo : UInt8) : highByte (be16 hi lo) = hi :=
  (be16_inj.1 (be16_high_low (be16 hi lo))).1

theorem lowByte_be16 (hi lo : UInt8) : lowByte (be16 hi lo) = lo :=
  (be16_inj.1 (be16_high_low (be16 hi lo))).2

/-- The bytes before the first one that ends a field, or all of them if none does. -/
def Bytes.untilByte (ends : UInt8 → Bool) (bytes : Bytes) : Bytes :=
  bytes.takeWhile fun b => !ends b

/-- The bytes before the first NUL. -/
def Bytes.untilNul (bytes : Bytes) : Bytes :=
  Bytes.untilByte (· == 0) bytes

/-- What stands before the end of a field is no longer than the bytes. -/
theorem Bytes.untilByte_length_le (ends : UInt8 → Bool) (bytes : Bytes) :
    (Bytes.untilByte ends bytes).length ≤ bytes.length :=
  (List.takeWhile_sublist _).length_le

/-- There is no NUL before the first NUL. -/
theorem Bytes.not_mem_untilNul (bytes : Bytes) : (0 : UInt8) ∉ Bytes.untilNul bytes := by
  induction bytes with
  | nil => simp [Bytes.untilNul, Bytes.untilByte]
  | cons b bs ih =>
    by_cases h : b = 0
    · simp [Bytes.untilNul, Bytes.untilByte, h]
    · have h' : ¬ (0 : UInt8) = b := fun e => h e.symm
      simpa [Bytes.untilNul, Bytes.untilByte, h, h'] using ih

end LanWatch
