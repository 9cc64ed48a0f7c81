import LanWatch.Proofs.Text.Numerals
import LanWatch.Proofs.Text.Trimming
import LanWatch.Text.Pieces
import Mathlib.Algebra.Order.Ring.Unbundled.Rat
import Mathlib.Tactic.NormNum

namespace LanWatch.Text

/-!
# Numbers with a point

Digits after a point tell parts of a whole, and how much they tell depends on how many there are. So
parts that were filled up with zeros to a fixed number of places are read as what they are of the
whole. Without the zeros they would be read as more.

* `fraction?` — the number that digits with a point among them spell;
* `length_paddedDecimal` — a number that fits into some places takes just as many;
* `decimalNumber?_paddedDecimal` — zeros in front do not change a number;
* `fraction?_paddedDecimal` — a whole, a point, and parts of it.
-/

/-- The number that digits spell, which may have a point among them. Each digit after the point
    counts in tenths of what the one before it counts in. -/
def fraction? (cs : List Char) : Option ℚ :=
  match cutAt? '.' cs with
  | none => (decimalNumber? cs).map fun n => (n : ℚ)
  | some (whole, parts) =>
    match decimalNumber? whole, decimalNumber? parts with
    | some n, some k => some (n + k / 10 ^ parts.length)
    | _, _ => none

/-! ### Zeros in front -/

/-- By the recursion of the digits: each of them takes a factor of ten. -/
theorem length_decimalDigits_le {n places : ℕ} (hplaces : 0 < places) (h : n < 10 ^ places) :
    (decimalDigits n).length ≤ places := by
  induction n using decimalDigits.induct generalizing places with
  | case1 n hsmall =>
    rw [decimalDigits, if_pos hsmall]
    exact hplaces
  | case2 n hlarge ih =>
    obtain _ | _ | places := places
    · exact absurd hplaces (Nat.lt_irrefl 0)
    · exact absurd h hlarge
    · have hrest : n / 10 < 10 ^ (places + 1) :=
        Nat.div_lt_of_lt_mul (by rw [pow_succ, Nat.mul_comm] at h; exact h)
      rw [decimalDigits, if_neg hlarge, List.length_append]
      exact Nat.succ_le_succ (ih (Nat.succ_pos places) hrest)

/-- A number that fits is written in as many digits as it was padded to. -/
theorem length_paddedDecimal {n places : ℕ} (hplaces : 0 < places) (h : n < 10 ^ places) :
    (paddedDecimal places n).toList.length = places := by
  have hle := length_decimalDigits_le hplaces h
  rw [paddedDecimal, String.toList_ofList, List.length_append, List.length_replicate]
  omega

theorem numeralFrom?_zeros (count : ℕ) :
    numeralFrom? 10 digitValue? 0 (List.replicate count '0') = some 0 := by
  induction count with
  | zero => rfl
  | succ count ih =>
    rw [List.replicate_succ, numeralFrom?]
    exact ih

/-- Padding makes no difference to the number that is read. -/
theorem decimalNumber?_paddedDecimal (places n : ℕ) :
    decimalNumber? (paddedDecimal places n).toList = some n := by
  have hread : numeralFrom? 10 digitValue? 0 (paddedDecimal places n).toList = some n := by
    rw [paddedDecimal, String.toList_ofList, numeralFrom?_append, numeralFrom?_zeros,
      Option.bind_some, numeralFrom?_decimalDigits]
  cases hdigits : (paddedDecimal places n).toList with
  | nil =>
    rw [paddedDecimal, String.toList_ofList, List.append_eq_nil_iff] at hdigits
    exact absurd hdigits.2 (decimalDigits_ne_nil n)
  | cons c cs =>
    rw [hdigits] at hread
    exact hread

/-! ### A whole and parts of it -/

theorem point_notMem_decimal (n : ℕ) : '.' ∉ (decimal n).toList := by
  intro h
  have hdigit := isDigit_of_mem_decimal n '.' h
  exact absurd hdigit (by decide)

/-- Parts that are few enough for their places are read as what they are of the whole. -/
theorem fraction?_paddedDecimal {places k : ℕ} (hplaces : 0 < places) (hk : k < 10 ^ places)
    (n : ℕ) : fraction? (decimal n ++ "." ++ paddedDecimal places k).toList =
      some (n + k / 10 ^ places : ℚ) := by
  have hcut : cutAt? '.' (decimal n ++ "." ++ paddedDecimal places k).toList =
      some ((decimal n).toList, (paddedDecimal places k).toList) := by
    rw [String.toList_append, String.toList_append, List.append_assoc]
    exact cutAt?_append (point_notMem_decimal n) _
  rw [fraction?, hcut]
  simp only [decimalNumber?_decimal, decimalNumber?_paddedDecimal, length_paddedDecimal hplaces hk]

end LanWatch.Text
