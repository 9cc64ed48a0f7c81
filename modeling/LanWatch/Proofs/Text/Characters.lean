import LanWatch.Text.Digits
import LanWatch.Text.Pieces

namespace LanWatch.Text

/-!
# The characters of written numbers

What a number can be made of, and what texts that are put together can be made of. A reader that
tells numbers from other things needs to know no more than this.

* `isDigit_of_mem_decimal`, `isDigit_of_mem_paddedDecimal` — a number is written in digits;
* `isAlphanum_of_mem_hexByte` — a byte is written in digits and letters;
* `mem_join_iff` — texts put together hold nothing but their own characters and those between them.
-/

/-! ### Numbers -/

/-- A number below ten is written as a digit. -/
theorem isDigit_digitChar {d : Nat} (h : d < 10) : (digitChar d).isDigit = true := by
  have key : ∀ d < 10, (digitChar d).isDigit = true := by decide
  exact key d h

/-- By the recursion of the digits, which goes to the number without its last one. -/
theorem isDigit_of_mem_decimalDigits (n : Nat) : ∀ c ∈ decimalDigits n, c.isDigit = true := by
  induction n using decimalDigits.induct with
  | case1 n hsmall =>
    intro c hc
    rw [decimalDigits, if_pos hsmall, List.mem_singleton] at hc
    rw [hc]
    exact isDigit_digitChar hsmall
  | case2 n hlarge ih =>
    intro c hc
    rw [decimalDigits, if_neg hlarge, List.mem_append, List.mem_singleton] at hc
    rcases hc with hc | hc
    · exact ih c hc
    · rw [hc]
      exact isDigit_digitChar (Nat.mod_lt n (by decide))

/-- A number has at least one digit. -/
theorem decimalDigits_ne_nil (n : Nat) : decimalDigits n ≠ [] := by
  rw [decimalDigits]
  split <;> simp

/-- A number is written in digits only. -/
theorem isDigit_of_mem_decimal (n : Nat) : ∀ c ∈ (decimal n).toList, c.isDigit = true := by
  rw [decimal, String.toList_ofList]
  exact isDigit_of_mem_decimalDigits n

/-- Zeros in front of a number are digits, too. -/
theorem isDigit_of_mem_paddedDecimal (width n : Nat) :
    ∀ c ∈ (paddedDecimal width n).toList, c.isDigit = true := by
  intro c hc
  simp only [paddedDecimal, String.toList_ofList, List.mem_append, List.mem_replicate] at hc
  rcases hc with ⟨-, rfl⟩ | hc
  · decide
  · exact isDigit_of_mem_decimalDigits n c hc

/-- A number below sixteen is written as a digit or a letter. -/
theorem isAlphanum_upperDigitChar {d : Nat} (h : d < 16) :
    (upperDigitChar d).isAlphanum = true := by
  have key : ∀ d < 16, (upperDigitChar d).isAlphanum = true := by decide
  exact key d h

/-- A byte is written in two such characters. -/
theorem isAlphanum_of_mem_hexByte (b : UInt8) : ∀ c ∈ hexByte b, c.isAlphanum = true := by
  intro c hc
  have hlt : b.toNat < 256 := b.toNat_lt
  simp only [hexByte, List.mem_cons, List.not_mem_nil, or_false] at hc
  rcases hc with rfl | rfl
  · exact isAlphanum_upperDigitChar (by omega)
  · exact isAlphanum_upperDigitChar (by omega)

/-! ### Texts put together -/

/-- What separates texts stands behind each of them but the last. -/
theorem join_cons_of_ne_nil (sep s : String) {ss : List String} (h : ss ≠ []) :
    join sep (s :: ss) = s ++ (sep ++ join sep ss) := by
  cases ss with
  | nil => exact absurd rfl h
  | cons t ss => simp [join, String.append_assoc]

/-- If a character does not separate texts, it is in one of them or not there at all. -/
theorem mem_join_iff {sep : String} {ss : List String} {c : Char} (hsep : c ∉ sep.toList) :
    c ∈ (join sep ss).toList ↔ ∃ s ∈ ss, c ∈ s.toList := by
  induction ss with
  | nil => simp [join]
  | cons s ss ih =>
    by_cases hss : ss = []
    · simp [hss, join]
    · rw [join_cons_of_ne_nil sep s hss]
      simp [hsep, ih]

/-- The same for texts that are written one by one. -/
theorem mem_join_map_iff {α : Type} {sep : String} {write : α → String} {as : List α} {c : Char}
    (hsep : c ∉ sep.toList) :
    c ∈ (join sep (as.map write)).toList ↔ ∃ a ∈ as, c ∈ (write a).toList := by
  rw [mem_join_iff hsep]
  constructor
  · rintro ⟨s, hs, hc⟩
    obtain ⟨a, ha, rfl⟩ := List.mem_map.1 hs
    exact ⟨a, ha, hc⟩
  · rintro ⟨a, ha, hc⟩
    exact ⟨write a, List.mem_map_of_mem ha, hc⟩

end LanWatch.Text
