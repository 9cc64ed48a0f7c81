import LanWatch.Proofs.Text.Utf8

namespace LanWatch.Text

/-!
# What text is written as

The bytes that a text is written as in UTF-8 are read back as the text. A character is written as a
lead byte, which tells how many bytes follow, and continuation bytes with six bits each.

* `Utf8.lead_two`, `Utf8.lead_three`, `Utf8.lead_four` — a lead byte, and which bytes may follow it;
* `Utf8.decodeFrom_more`, `Utf8.decodeFrom_last` — a continuation byte adds its six bits;
* `Utf8.decodeFrom_encodeChar` — a character is read back, whatever follows it;
* `Utf8.decodeFrom_utf8`, `decodeLossy_utf8` — and so is a text.
-/

/-- The bytes of a text. -/
def utf8 (text : String) : Bytes :=
  text.toUTF8.data.toList

theorem utf8_eq_flatMap (text : String) :
    utf8 text = text.toList.flatMap String.utf8EncodeChar := by
  conv_lhs => rw [← String.ofList_toList (s := text)]
  rw [utf8, String.toUTF8_eq_toByteArray, String.toByteArray_ofList, List.utf8Encode,
    List.toList_data_toByteArray]

namespace Utf8

/-! ### Lead bytes -/

section Lead

variable {n : Nat}

/-- A byte below 0x80 is a character. -/
theorem lead_one (h : n ≤ 0x7f) : lead (UInt8.ofNat n) = ⟨some (Char.ofNat n), .ground, false⟩ := by
  have hn : (UInt8.ofNat n).toNat = n := UInt8.toNat_ofNat_of_lt' (by simp [UInt8.size]; omega)
  simp [lead, hn, show n < 128 by omega]

/-- The lead of two bytes owes one more. -/
theorem lead_two (hlow : 0x7f < n) (hhigh : n ≤ 0x7ff) :
    lead (UInt8.ofNat (n / 64 % 32 + 0xc0)) = ⟨none, .inside (n / 64) 1 0x80 0xbf, false⟩ := by
  have hlead : (UInt8.ofNat (n / 64 % 32 + 0xc0)).toNat = n / 64 + 0xc0 := by
    rw [UInt8.toNat_ofNat']
    omega
  simp only [lead, hlead]
  rw [if_neg (by omega), if_pos (by omega), Nat.add_sub_cancel]

/-- The second byte of three has a narrower range where the character would else be overlong or a
    surrogate. -/
theorem lead_three (hlow : 0x7ff < n) (hhigh : n ≤ 0xffff) (hvalid : n.isValidChar) :
    ∃ low high, lead (UInt8.ofNat (n / 4096 % 16 + 0xe0)) =
        ⟨none, .inside (n / 4096) 2 low high, false⟩ ∧
      low ≤ n / 64 % 64 + 0x80 ∧ n / 64 % 64 + 0x80 ≤ high := by
  have hlead : (UInt8.ofNat (n / 4096 % 16 + 0xe0)).toNat = n / 4096 + 0xe0 := by
    rw [UInt8.toNat_ofNat']
    omega
  simp only [lead, hlead]
  rw [if_neg (by omega), if_neg (by omega)]
  by_cases hzero : n / 4096 = 0
  · rw [hzero, if_pos rfl]
    exact ⟨_, _, rfl, by omega, by omega⟩
  by_cases hsurrogate : n / 4096 = 0xd
  · rw [hsurrogate, if_neg (by decide), if_pos rfl]
    exact ⟨_, _, rfl, by omega, by omega⟩
  · rw [if_neg (by omega), if_neg (by omega), if_pos (by omega), Nat.add_sub_cancel]
    exact ⟨_, _, rfl, by omega, by omega⟩

/-- The second byte of four has a narrower range where the character would else be overlong or too
    large. -/
theorem lead_four (hlow : 0xffff < n) (hvalid : n.isValidChar) :
    ∃ low high, lead (UInt8.ofNat (n / 262144 % 8 + 0xf0)) =
        ⟨none, .inside (n / 262144) 3 low high, false⟩ ∧
      low ≤ n / 4096 % 64 + 0x80 ∧ n / 4096 % 64 + 0x80 ≤ high := by
  have hlead : (UInt8.ofNat (n / 262144 % 8 + 0xf0)).toNat = n / 262144 + 0xf0 := by
    rw [UInt8.toNat_ofNat']
    omega
  simp only [lead, hlead]
  rw [if_neg (by omega), if_neg (by omega), if_neg (by omega), if_neg (by omega), if_neg (by omega)]
  by_cases hzero : n / 262144 = 0
  · rw [hzero, if_pos rfl]
    exact ⟨_, _, rfl, by omega, by omega⟩
  by_cases hlast : n / 262144 = 4
  · rw [hlast, if_neg (by decide), if_neg (by decide), if_pos rfl]
    exact ⟨_, _, rfl, by omega, by omega⟩
  · rw [if_neg (by omega), if_pos (by omega), Nat.add_sub_cancel]
    exact ⟨_, _, rfl, by omega, by omega⟩

end Lead

/-! ### Continuation bytes -/

section Continuation

variable {value low high : Nat} {bits : Nat}

/-- A continuation carries six bits. -/
theorem toNat_continuation (h : bits < 64) : (UInt8.ofNat (bits + 0x80)).toNat = bits + 0x80 := by
  rw [UInt8.toNat_ofNat']
  omega

/-- A continuation that is not the last one adds its bits to the value. -/
theorem decodeFrom_more (h : bits < 64) (hlow : low ≤ bits + 0x80) (hhigh : bits + 0x80 ≤ high)
    (owed : Nat) (bs : Bytes) :
    decodeFrom (.inside value (owed + 2) low high) (UInt8.ofNat (bits + 0x80) :: bs) =
      decodeFrom (.inside (value * 64 + bits) (owed + 1) 0x80 0xbf) bs := by
  rw [decodeFrom, toNat_continuation h, if_pos ⟨hlow, hhigh⟩, if_neg (by omega), Nat.add_sub_cancel]
  rfl

/-- The last continuation completes the character. -/
theorem decodeFrom_last (h : bits < 64) (hlow : low ≤ bits + 0x80) (hhigh : bits + 0x80 ≤ high)
    (bs : Bytes) :
    decodeFrom (.inside value 1 low high) (UInt8.ofNat (bits + 0x80) :: bs) =
      Char.ofNat (value * 64 + bits) :: decodeFrom .ground bs := by
  rw [decodeFrom, toNat_continuation h, if_pos ⟨hlow, hhigh⟩, if_pos (Nat.le_refl 1),
    Nat.add_sub_cancel]

end Continuation

/-! ### Characters and texts -/

theorem decodeFrom_encodeChar (c : Char) (bs : Bytes) :
    decodeFrom .ground (String.utf8EncodeChar c ++ bs) = c :: decodeFrom .ground bs := by
  -- One case for each length that a character can be written in.
  have hvalid : c.toNat.isValidChar := c.valid
  have hofNat : Char.ofNat c.toNat = c := Char.ofNat_toNat c
  have hbits : ∀ k, k % 64 < 64 := fun k => Nat.mod_lt k (by decide)
  simp only [String.utf8EncodeChar, Char.toNat_val]
  generalize c.toNat = n at *
  subst hofNat
  by_cases hone : n ≤ 0x7f
  · rw [if_pos hone, List.singleton_append, decodeFrom, lead_one hone]
    rfl
  by_cases htwo : n ≤ 0x7ff
  · rw [if_neg hone, if_pos htwo, List.cons_append, List.singleton_append, decodeFrom,
      lead_two (by omega) htwo]
    simp only [Option.toList_none, List.nil_append]
    rw [decodeFrom_last (hbits n) (by omega) (by have := hbits n; omega), Nat.div_add_mod']
  by_cases hthree : n ≤ 0xffff
  · obtain ⟨low, high, hlead, hlow, hhigh⟩ := lead_three (by omega) hthree hvalid
    rw [if_neg hone, if_neg htwo, if_pos hthree]
    simp only [List.cons_append, List.nil_append]
    rw [decodeFrom, hlead]
    simp only [Option.toList_none, List.nil_append]
    rw [decodeFrom_more (hbits _) hlow hhigh,
      decodeFrom_last (hbits n) (by omega) (by have := hbits n; omega)]
    congr 2
    omega
  · obtain ⟨low, high, hlead, hlow, hhigh⟩ := lead_four (by omega) hvalid
    rw [if_neg hone, if_neg htwo, if_neg hthree]
    simp only [List.cons_append, List.nil_append]
    rw [decodeFrom, hlead]
    simp only [Option.toList_none, List.nil_append]
    rw [decodeFrom_more (hbits _) hlow hhigh,
      decodeFrom_more (hbits _) (by omega) (by have := hbits (n / 64); omega),
      decodeFrom_last (hbits n) (by omega) (by have := hbits n; omega)]
    congr 2
    omega

theorem decodeFrom_utf8 (text : String) (bs : Bytes) :
    decodeFrom .ground (utf8 text ++ bs) = text.toList ++ decodeFrom .ground bs := by
  -- By induction on the characters: each of them is read back, and the decoder is ready for the
  -- next.
  rw [utf8_eq_flatMap]
  induction text.toList with
  | nil => rfl
  | cons c cs ih =>
    rw [List.flatMap_cons, List.append_assoc, decodeFrom_encodeChar, ih]
    rfl

end Utf8

/-- What a text is written as is read back as the text. -/
theorem decodeLossy_utf8 (text : String) : decodeLossy (utf8 text) = text := by
  have hread := Utf8.decodeFrom_utf8 text []
  rw [List.append_nil, Utf8.decodeFrom, List.append_nil] at hread
  rw [decodeLossy, hread, String.ofList_toList]

end LanWatch.Text
