import LanWatch.Proofs.Sql.Sightings
import LanWatch.Proofs.Text.Fractions
import Mathlib.Algebra.Order.Field.Basic
import Mathlib.Algebra.Order.Field.Rat
import Mathlib.Order.Compare
import Mathlib.Tactic.Linarith
import Mathlib.Tactic.Ring

namespace LanWatch

/-!
# Times keep their order

A timestamp counts microseconds: those of its seconds, and those after them. As long as the latter
are no whole second, earlier timestamps count fewer. So the clock's times keep their order when they
become timestamps, and timestamps from the epoch on keep theirs when they become numbers in a text.

* `WallClock` — a time as the clock of the system gives it;
* `Timestamp.count`, `Timestamp.value` — a timestamp in microseconds, and in seconds;
* `Timestamp.compare_eq_compare_count` — the order of timestamps is that of their counts;
* `Timestamp.count_ofNanos` — the nanoseconds of a clock are rounded down, and none before the epoch
  are counted;
* `Timestamp.fraction?_text` — the text of a timestamp spells its seconds;
* `Timestamp.keeps_order_and_value` — all of this, up to the statement that a database is given.
-/

/-- A time as the clock of the system gives it: whole seconds, and nanoseconds after them. -/
structure WallClock where
  /-- Whole seconds since the Unix epoch. -/
  secs : Int64
  /-- Nanoseconds within the second. -/
  nanos : UInt32
  nanos_lt : nanos.toNat < 1000000000
  deriving DecidableEq

/-- How many nanoseconds after the epoch it is, or before it. -/
def WallClock.sinceEpoch (w : WallClock) : ℤ :=
  w.secs.toInt * 1000000000 + w.nanos.toNat

/-- No clock runs longer than its seconds can tell. -/
theorem WallClock.sinceEpoch_lt (w : WallClock) : w.sinceEpoch / 1000000000 < 2 ^ 63 := by
  have hsecs := w.secs.toInt_lt
  have hnanos := w.nanos_lt
  unfold sinceEpoch
  omega

namespace Timestamp

/-- How many microseconds after the epoch it is, or before it. -/
def count (t : Timestamp) : ℤ :=
  t.secs.toInt * 1000000 + t.micros.toNat

/-- How many seconds after the epoch it is. -/
def value (t : Timestamp) : ℚ :=
  t.secs.toInt + t.micros.toNat / 1000000

/-- From the epoch on, and the microseconds are no whole second. -/
structure Regular (t : Timestamp) : Prop where
  secs_nonneg : 0 ≤ t.secs
  micros_lt : t.micros < 1000000

variable {s t : Timestamp}

theorem Regular.secs_toInt (h : t.Regular) : 0 ≤ t.secs.toInt :=
  Int64.le_iff_toInt_le.1 h.secs_nonneg

theorem Regular.micros_toNat (h : t.Regular) : t.micros.toNat < 1000000 :=
  UInt32.lt_iff_toNat_lt.1 h.micros_lt

/-! ### Order -/

/-- Two regular times with the same count have the same seconds, and then the same microseconds. -/
theorem eq_of_count_eq (hs : s.Regular) (ht : t.Regular) (h : s.count = t.count) : s = t := by
  have hmicros := hs.micros_toNat
  have hmicros' := ht.micros_toNat
  unfold count at h
  obtain ⟨secs, micros⟩ := s
  obtain ⟨secs', micros'⟩ := t
  simp only at h hmicros hmicros'
  rw [Int64.toInt_inj.1 (show secs.toInt = secs'.toInt by omega),
    UInt32.toNat_inj.1 (show micros.toNat = micros'.toNat by omega)]

/-- Fewer seconds are fewer microseconds, however many come after them. -/
theorem compare_eq_compare_count (hs : s.Regular) (ht : t.Regular) :
    compare s t = compare s.count t.count := by
  have hmicros := hs.micros_toNat
  have hmicros' := ht.micros_toNat
  show (compare s.secs.toInt t.secs.toInt).then (compare s.micros.toNat t.micros.toNat) = _
  unfold count
  rcases lt_trichotomy s.secs.toInt t.secs.toInt with h | h | h
  · rw [Int.compare_eq_lt.2 h, Int.compare_eq_lt.2 (by omega)]
    rfl
  · rw [Int.compare_eq_eq.2 h, h, Ordering.eq_then]
    rcases lt_trichotomy s.micros.toNat t.micros.toNat with h' | h' | h'
    · rw [Nat.compare_eq_lt.2 h', Int.compare_eq_lt.2 (by omega)]
    · rw [Nat.compare_eq_eq.2 h', Int.compare_eq_eq.2 (by omega)]
    · rw [Nat.compare_eq_gt.2 h', Int.compare_eq_gt.2 (by omega)]
  · rw [Int.compare_eq_gt.2 h, Int.compare_eq_gt.2 (by omega)]
    rfl

/-- The value is the count in millionths. -/
theorem value_eq (t : Timestamp) : t.value = t.count / 1000000 := by
  unfold value count
  push_cast
  ring

/-- Numbers of seconds are ordered as numbers of microseconds are. -/
theorem compare_eq_compare_value (hs : s.Regular) (ht : t.Regular) :
    compare s t = compare s.value t.value := by
  have hmono : StrictMono fun count : ℤ => (count : ℚ) / 1000000 := by
    intro m n h
    have hcast : (m : ℚ) < n := Int.cast_lt.2 h
    show (m : ℚ) / 1000000 < n / 1000000
    linarith
  have hcmp := hmono.cmp_map_eq s.count t.count
  rw [cmp_eq_compare, cmp_eq_compare, ← value_eq, ← value_eq] at hcmp
  rw [compare_eq_compare_count hs ht, hcmp]

/-! ### Times of the clock -/

section Clock

variable {nanos : ℤ}

/-- A time before the epoch is told as the epoch. -/
theorem ofNanos_of_neg (h : nanos < 0) : ofNanos nanos = epoch := if_pos h

theorem secs_ofNanos (hnonneg : 0 ≤ nanos) (hlt : nanos / 1000000000 < 2 ^ 63) :
    (ofNanos nanos).secs.toInt = nanos / 1000000000 := by
  rw [ofNanos, if_neg (Int.not_lt.2 hnonneg)]
  exact Int64.toInt_ofInt_of_le (by omega) hlt

/-- What is left of a second fits into its field, in whole microseconds. -/
theorem micros_ofNanos (hnonneg : 0 ≤ nanos) :
    (ofNanos nanos).micros.toNat = (nanos % 1000000000).toNat / 1000 := by
  have hrest := Int.emod_lt_of_pos nanos (show 0 < 1000000000 by decide)
  rw [ofNanos, if_neg (Int.not_lt.2 hnonneg)]
  exact UInt32.toNat_ofNat_of_lt' (show (nanos % 1000000000).toNat / 1000 < 4294967296 by omega)

/-- A time that a clock tells is regular. -/
theorem regular_ofNanos (hlt : nanos / 1000000000 < 2 ^ 63) : (ofNanos nanos).Regular := by
  rcases Int.lt_or_le nanos 0 with h | h
  · rw [ofNanos_of_neg h]
    exact ⟨by decide, by decide⟩
  · refine ⟨Int64.le_iff_toInt_le.2 ?_, UInt32.lt_iff_toNat_lt.2 ?_⟩
    · rw [secs_ofNanos h hlt]
      exact Int.ediv_nonneg h (by decide)
    · rw [micros_ofNanos h]
      show (nanos % 1000000000).toNat / 1000 < 1000000
      omega

/-- What is counted is whole microseconds, of which there are none before the epoch. -/
theorem count_ofNanos (hlt : nanos / 1000000000 < 2 ^ 63) :
    (ofNanos nanos).count = max nanos 0 / 1000 := by
  rcases Int.lt_or_le nanos 0 with h | h
  · rw [ofNanos_of_neg h, max_eq_right h.le]
    rfl
  · rw [count, secs_ofNanos h hlt, micros_ofNanos h, max_eq_left h]
    omega

end Clock

/-- A later time on the clock is not told as an earlier one. -/
theorem compare_ofNanos_isLE {m n : ℤ} (h : m ≤ n) (hlt : n / 1000000000 < 2 ^ 63) :
    (compare (ofNanos m) (ofNanos n)).isLE = true := by
  have hlt' : m / 1000000000 < 2 ^ 63 :=
    lt_of_le_of_lt (Int.ediv_le_ediv (by decide) h) hlt
  rw [compare_eq_compare_count (regular_ofNanos hlt') (regular_ofNanos hlt), count_ofNanos hlt',
    count_ofNanos hlt, Std.isLE_compare]
  exact Int.ediv_le_ediv (by decide) (max_le_max_right 0 h)

/-! ### Texts -/

/-- The six digits after the point are what the microseconds are of a second. -/
theorem fraction?_text (h : t.Regular) : Text.fraction? t.text.toList = some t.value := by
  have hsecs := h.secs_toInt
  have hmicros : t.micros.toNat < 10 ^ 6 := h.micros_toNat
  have hnat : (t.secs.toInt.natAbs : ℚ) = t.secs.toInt := by
    rw [← Int.cast_natCast, Int.natAbs_of_nonneg hsecs]
  rw [text, Text.signedDecimal, if_neg (Int.not_lt.2 hsecs),
    Text.fraction?_paddedDecimal (by decide) hmicros, hnat, value]
  norm_num

/-- What the statement of a sighting sets as the time it was seen, in a new row or in one that is
    there, is the number that its timestamp spells. -/
theorem seen_ofSighting (site : Site) (resolver : Option Resolver) (s : Sighting)
    (h : s.seen.Regular) : ∃ statement number,
      Sql.read? (Upsert.ofSighting site resolver s).render = some [statement] ∧
      statement.valueOf? "last_seen" = some (.call "FROM_UNIXTIME" (.number number)) ∧
      (∀ a ∈ statement.updates, a.column = "last_seen" →
        a.value = .call "FROM_UNIXTIME" (.number number)) ∧
      Text.fraction? number.toList = some s.seen.value := by
  have hrecords := Upsert.records_ofSighting site resolver s
  refine ⟨_, s.seen.text, Upsert.read?_ofSighting site resolver s, hrecords.seen, ?_,
    fraction?_text h⟩
  intro a ha hcolumn
  have hvalue := (hrecords.updates a ha).2
  rw [hcolumn, if_neg (by decide), hrecords.seen] at hvalue
  exact (Option.some.inj hvalue).symm

/-- Of two times of the clock, the earlier one does not become the later timestamp. From the epoch
    on, a timestamp is its time rounded down to whole microseconds, less than a million of which come
    after the seconds. The text of such a timestamp is a decimal number, and exactly that of its
    seconds with their parts; no two of them have one text; and they are ordered as the numbers are
    that their texts spell, which are those that a database is given. -/
theorem keeps_order_and_value :
    (∀ s t : WallClock, s.sinceEpoch ≤ t.sinceEpoch →
      (compare (ofNanos s.sinceEpoch) (ofNanos t.sinceEpoch)).isLE = true) ∧
    (∀ t : WallClock, 0 ≤ t.sinceEpoch →
      (ofNanos t.sinceEpoch).Regular ∧
      (ofNanos t.sinceEpoch).count * 1000 ≤ t.sinceEpoch ∧
      t.sinceEpoch < ((ofNanos t.sinceEpoch).count + 1) * 1000) ∧
    (∀ t : Timestamp, t.Regular →
      Text.fraction? t.text.toList = some (t.secs.toInt + t.micros.toNat / 1000000 : ℚ)) ∧
    (∀ s t : Timestamp, s.Regular → t.Regular → s.text = t.text → s = t) ∧
    (∀ s t : Timestamp, s.Regular → t.Regular → ∃ x y : ℚ,
      Text.fraction? s.text.toList = some x ∧ Text.fraction? t.text.toList = some y ∧
      compare s t = compare x y) ∧
    ∀ (site : Site) (resolver : Option Resolver) (s : Sighting), s.seen.Regular →
      ∃ statement number,
        Sql.read? (Upsert.ofSighting site resolver s).render = some [statement] ∧
        statement.valueOf? "last_seen" = some (.call "FROM_UNIXTIME" (.number number)) ∧
        (∀ a ∈ statement.updates, a.column = "last_seen" →
          a.value = .call "FROM_UNIXTIME" (.number number)) ∧
        Text.fraction? number.toList = some s.seen.value := by
  refine ⟨fun s t h => compare_ofNanos_isLE h t.sinceEpoch_lt, fun t h => ?_,
    fun t h => fraction?_text h, fun s t hs ht h => ?_, fun s t hs ht => ?_, seen_ofSighting⟩
  · have hcount := count_ofNanos t.sinceEpoch_lt
    rw [max_eq_left h] at hcount
    refine ⟨regular_ofNanos t.sinceEpoch_lt, ?_, ?_⟩ <;> rw [hcount] <;> omega
  · -- Two numbers of which one is the other count the same microseconds.
    have hvalue : some s.value = some t.value := by
      rw [← fraction?_text hs, ← fraction?_text ht, h]
    have hcompare := compare_eq_compare_value hs ht
    rw [Option.some.inj hvalue, compare_eq_compare_count hs ht, Std.compare_self] at hcompare
    exact eq_of_count_eq hs ht (Int.compare_eq_eq.1 hcompare)
  · exact ⟨_, _, fraction?_text hs, fraction?_text ht, compare_eq_compare_value hs ht⟩

/-- A time just before the epoch and one just before the end of a second. Neither is rounded up, and
    the zeros before the five microseconds after that second count. -/
theorem keeps_order_and_value_around_a_second :
    (compare (ofNanos (-1)) (ofNanos 1700000000999999500)).isLE = true ∧
    (ofNanos 1700000000999999500).count * 1000 ≤ 1700000000999999500 ∧
    Text.fraction? "1700000000.999999".toList = some (1700000000 + 999999 / 1000000) ∧
    ∃ x y : ℚ, Text.fraction? "1700000000.999999".toList = some x ∧
      Text.fraction? "1700000001.000005".toList = some y ∧ compare x y = .lt := by
  obtain ⟨horder, hround, hvalue, -, hcompare, -⟩ := keeps_order_and_value
  have hregular : (⟨1700000000, 999999⟩ : Timestamp).Regular := ⟨by decide, by decide⟩
  have hregular' : (⟨1700000001, 5⟩ : Timestamp).Regular := ⟨by decide, by decide⟩
  have hfirst : (⟨1700000000, 999999⟩ : Timestamp).text = "1700000000.999999" := by
    decide +kernel
  have hsecond : (⟨1700000001, 5⟩ : Timestamp).text = "1700000001.000005" := by
    decide +kernel
  have hearly : (⟨-1, 999999999, by decide⟩ : WallClock).sinceEpoch = -1 := by decide
  have hlate : (⟨1700000000, 999999500, by decide⟩ : WallClock).sinceEpoch =
      1700000000999999500 := by decide
  refine ⟨?_, ?_, ?_, ?_⟩
  · rw [← hearly, ← hlate]
    exact horder _ _ (by rw [hearly, hlate]; decide)
  · have hbelow := (hround _ (by rw [hlate]; decide)).2.1
    rw [hlate] at hbelow
    exact hbelow
  · have hspelled := hvalue _ hregular
    have hsecs : (1700000000 : Int64).toInt = 1700000000 := by decide
    have hmicros : (999999 : UInt32).toNat = 999999 := by decide
    rw [hfirst, hsecs, hmicros] at hspelled
    exact_mod_cast hspelled
  · obtain ⟨x, y, hx, hy, hxy⟩ := hcompare _ _ hregular hregular'
    rw [hfirst] at hx
    rw [hsecond] at hy
    exact ⟨x, y, hx, hy, hxy.symm⟩

end Timestamp

end LanWatch
