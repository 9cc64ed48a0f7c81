import LanWatch.Text.Digits

namespace LanWatch

/-!
# Timestamps

When a frame was received: whole seconds since the Unix epoch, and microseconds.

* `Timestamp` — the two numbers, ordered by seconds first;
* `Timestamp.ofNanos` — the timestamp of a wall-clock time;
* `Timestamp.text` — the written form, seconds and at least six digits of microseconds.
-/

/-- The time at which a frame was received. -/
structure Timestamp where
  /-- Whole seconds since the Unix epoch. -/
  secs : Int64
  /-- Microseconds within the second. -/
  micros : UInt32
  deriving DecidableEq

namespace Timestamp

/-- The Unix epoch itself. -/
def epoch : Timestamp := ⟨0, 0⟩

/-- The timestamp of the wall-clock time `nanos` nanoseconds after the epoch, rounded down to the
    microsecond. Times before the epoch count as the epoch. -/
def ofNanos (nanos : Int) : Timestamp :=
  if nanos < 0 then epoch
  else ⟨Int64.ofInt (nanos / 1000000000), UInt32.ofNat ((nanos % 1000000000).toNat / 1000)⟩

/-- The wall-clock time, in nanoseconds after the epoch, that lies `secs` seconds and `nanos`
    nanoseconds away from it: after it, or before it when `secs` is negative. -/
def nanosAway (secs : Int) (nanos : Nat) : Int :=
  if secs < 0 then secs * 1000000000 - nanos else secs * 1000000000 + nanos

/-- Seconds, a point, and the microseconds with at least six digits. -/
def text (t : Timestamp) : String :=
  Text.signedDecimal t.secs.toInt ++ "." ++ Text.paddedDecimal 6 t.micros.toNat

/-- Earlier seconds come first, then fewer microseconds. -/
instance : Ord Timestamp where
  compare a b := (compare a.secs.toInt b.secs.toInt).then (compare a.micros.toNat b.micros.toNat)

end Timestamp

example : Timestamp.text ⟨-1, 5⟩ = "-1.000005" := by cbv
example : Timestamp.text ⟨3, 1000000⟩ = "3.1000000" := by cbv
example : Timestamp.ofNanos (-1) = Timestamp.epoch := by decide

end LanWatch
