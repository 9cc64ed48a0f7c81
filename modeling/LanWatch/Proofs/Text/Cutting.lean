import LanWatch.Proofs.Text.Encoding
import LanWatch.Text.ByteCut

namespace LanWatch.Text

/-!
# Text cut at a byte

Bytes of text are cut at a place that need not lie between two characters. What is read back then is
the characters in front of the place, and a replacement for the character around it, if there is
one. A place lies inside a character if the characters in front of it do not reach up to it, though
the text does.

* `byteLength_eq_width` — characters are counted as they are written;
* `takeBytes_isPrefix`, `byteLength_takeBytes_le`, `prefix_takeBytes` — the characters in front of a
  place are the longest beginning of the text that fits;
* `CutsCharacter`, `cutsCharacter_iff` — a place lies inside a character;
* `Utf8.decodeFrom_take_encodeChar` — of a character that is cut, a replacement is read;
* `decodeLossy_take` — what is read of a text that is cut.
-/

/-! ### Counting bytes -/

theorem byteLength_eq (cs : List Char) :
    byteLength cs = (cs.flatMap String.utf8EncodeChar).length := by
  induction cs with
  | nil => rfl
  | cons c cs ih =>
    rw [byteLength, ih, List.flatMap_cons, List.length_append, String.length_utf8EncodeChar]

/-- The bytes of a text are those of its characters. -/
theorem length_utf8 (text : String) : (utf8 text).length = byteLength text.toList := by
  rw [utf8_eq_flatMap, byteLength_eq]

/-- Both ways to count the bytes of a text agree. -/
theorem byteLength_eq_width (text : String) : byteLength text.toList = Utf8.width text := by
  rw [← length_utf8]
  exact Array.length_toList

/-! ### The characters in front of a place -/

section Before

variable {n : Nat} {cs : List Char}

/-- A cut keeps a beginning of the text. -/
theorem takeBytes_isPrefix (n : Nat) (cs : List Char) : takeBytes n cs <+: cs := by
  induction cs generalizing n with
  | nil => exact List.prefix_rfl
  | cons c cs ih =>
    rw [takeBytes]
    split
    · exact (List.prefix_cons_inj c).2 (ih _)
    · exact List.nil_prefix

/-- What is kept has at most as many bytes as were asked for. -/
theorem byteLength_takeBytes_le (n : Nat) (cs : List Char) : byteLength (takeBytes n cs) ≤ n := by
  induction cs generalizing n with
  | nil => exact Nat.zero_le n
  | cons c cs ih =>
    rw [takeBytes]
    split
    · have hrest := ih (n - c.utf8Size)
      rw [byteLength]
      omega
    · exact Nat.zero_le n

/-- A beginning of the text that fits in front of the place stands there. -/
theorem prefix_takeBytes {front : List Char} (h : front <+: cs) (hfits : byteLength front ≤ n) :
    front <+: takeBytes n cs := by
  induction front generalizing n cs with
  | nil => exact List.nil_prefix
  | cons c front ih =>
    obtain ⟨rest, rfl⟩ := h
    rw [byteLength] at hfits
    rw [List.cons_append, takeBytes, if_pos (by omega)]
    exact (List.prefix_cons_inj c).2 (ih (List.prefix_append front rest) (by omega))

/-- A text that is short enough is kept as a whole. -/
theorem takeBytes_of_le (h : byteLength cs ≤ n) : takeBytes n cs = cs :=
  (takeBytes_isPrefix n cs).eq_of_length_le (prefix_takeBytes List.prefix_rfl h).length_le

end Before

/-- The place after `n` bytes lies inside a character. -/
def CutsCharacter (n : Nat) (cs : List Char) : Prop :=
  byteLength (takeBytes n cs) < n ∧ n < byteLength cs

instance (n : Nat) (cs : List Char) : Decidable (CutsCharacter n cs) :=
  inferInstanceAs (Decidable (_ ∧ _))

section Cuts

variable {n : Nat} {c : Char} {cs : List Char}

/-- A beginning has no more bytes than the whole. -/
theorem byteLength_mono {front : List Char} (h : front <+: cs) :
    byteLength front ≤ byteLength cs := by
  obtain ⟨rest, rfl⟩ := h
  rw [byteLength_append]
  exact Nat.le_add_right _ _

/-- A place that the text goes beyond lies inside a character exactly if no beginning of the text
    ends there. -/
theorem cutsCharacter_iff : CutsCharacter n cs ↔
    n < byteLength cs ∧ ∀ front, front <+: cs → byteLength front ≠ n := by
  constructor
  · rintro ⟨hless, hbeyond⟩
    refine ⟨hbeyond, fun front hfront hends => ?_⟩
    have hle := byteLength_mono (prefix_takeBytes hfront (Nat.le_of_eq hends))
    omega
  · rintro ⟨hbeyond, hnone⟩
    have hne := hnone _ (takeBytes_isPrefix n cs)
    exact ⟨Nat.lt_of_le_of_ne (byteLength_takeBytes_le n cs) hne, hbeyond⟩

theorem cutsCharacter_nil : ¬CutsCharacter n [] := fun h => Nat.not_lt_zero n h.2

/-- A character in front of the place only moves it. -/
theorem cutsCharacter_cons_of_le (h : c.utf8Size ≤ n) :
    CutsCharacter n (c :: cs) ↔ CutsCharacter (n - c.utf8Size) cs := by
  rw [CutsCharacter, CutsCharacter, takeBytes, if_pos h, byteLength, byteLength]
  omega

/-- The first character lies around the place, unless the place is in front of everything. -/
theorem cutsCharacter_cons_of_lt (h : n < c.utf8Size) : CutsCharacter n (c :: cs) ↔ 0 < n := by
  rw [CutsCharacter, takeBytes, if_neg (Nat.not_le.2 h), byteLength, byteLength]
  omega

theorem CutsCharacter.near (h : CutsCharacter n cs) : n ≤ byteLength (takeBytes n cs) + 3 := by
  -- By induction on the characters: the one around the place has four bytes at most, so those in
  -- front of it come near.
  induction cs generalizing n with
  | nil => exact absurd h cutsCharacter_nil
  | cons c cs ih =>
    by_cases hfits : c.utf8Size ≤ n
    · have hrest := ih ((cutsCharacter_cons_of_le hfits).1 h)
      rw [takeBytes, if_pos hfits, byteLength]
      omega
    · have hsize := c.utf8Size_le_four
      omega

end Cuts

/-! ### Reading what is left -/

namespace Utf8

theorem decodeFrom_take_encodeChar (c : Char) {k : Nat} (hpos : 0 < k) (hcut : k < c.utf8Size) :
    decodeFrom .ground ((String.utf8EncodeChar c).take k) = [replacement] := by
  -- One case for each length that a character can be written in, and in it one for each place. The
  -- bytes in front of the place begin the character, and nothing more comes.
  have hvalid : c.toNat.isValidChar := c.valid
  have hbits : ∀ m, m % 64 < 64 := fun m => Nat.mod_lt m (by decide)
  rw [← String.length_utf8EncodeChar] at hcut
  simp only [String.utf8EncodeChar, Char.toNat_val] at hcut ⊢
  generalize c.toNat = n at *
  -- There is no place inside a character of one byte.
  by_cases hone : n ≤ 0x7f
  · rw [if_pos hone, List.length_singleton] at hcut
    omega
  by_cases htwo : n ≤ 0x7ff
  · rw [if_neg hone, if_pos htwo] at hcut ⊢
    obtain rfl : k = 1 := by
      simp only [List.length_cons, List.length_nil] at hcut
      omega
    -- One byte more is owed, and the end comes in place of it.
    rw [List.take_succ_cons, List.take_zero, decodeFrom, lead_two (by omega) htwo]
    rfl
  by_cases hthree : n ≤ 0xffff
  · obtain ⟨low, high, hlead, hlow, hhigh⟩ := lead_three (by omega) hthree hvalid
    rw [if_neg hone, if_neg htwo, if_pos hthree] at hcut ⊢
    have hk : k = 1 ∨ k = 2 := by
      simp only [List.length_cons, List.length_nil] at hcut
      omega
    rcases hk with rfl | rfl
    all_goals
      simp only [List.take_succ_cons, List.take_zero]
      rw [decodeFrom, hlead]
      simp only [Option.toList_none, List.nil_append]
    · rfl
    · rw [decodeFrom_more (hbits _) hlow hhigh]
      rfl
  · obtain ⟨low, high, hlead, hlow, hhigh⟩ := lead_four (by omega) hvalid
    rw [if_neg hone, if_neg htwo, if_neg hthree] at hcut ⊢
    have hk : k = 1 ∨ k = 2 ∨ k = 3 := by
      simp only [List.length_cons, List.length_nil] at hcut
      omega
    rcases hk with rfl | rfl | rfl
    all_goals
      simp only [List.take_succ_cons, List.take_zero]
      rw [decodeFrom, hlead]
      simp only [Option.toList_none, List.nil_append]
    · rfl
    · rw [decodeFrom_more (hbits _) hlow hhigh]
      rfl
    · rw [decodeFrom_more (hbits _) hlow hhigh,
        decodeFrom_more (hbits _) (by omega) (by have := hbits (n / 64); omega)]
      rfl

theorem decodeFrom_take (n : Nat) (cs : List Char) :
    decodeFrom .ground ((cs.flatMap String.utf8EncodeChar).take n) =
      takeBytes n cs ++ if CutsCharacter n cs then [replacement] else [] := by
  -- By induction on the characters: those in front of the place are read as they are, and of the
  -- one around it a replacement.
  induction cs generalizing n with
  | nil => simp [decodeFrom, takeBytes, cutsCharacter_nil]
  | cons c cs ih =>
    have hlength := String.length_utf8EncodeChar c
    rw [List.flatMap_cons, List.take_append, hlength, takeBytes]
    by_cases hfits : c.utf8Size ≤ n
    · -- The first character is all there, and the place lies somewhere behind it.
      rw [List.take_of_length_le (by omega), decodeFrom_encodeChar, ih, if_pos hfits,
        List.cons_append, if_congr (cutsCharacter_cons_of_le hfits) rfl rfl]
    · -- Nothing is left of the others; of the first one there may be some bytes.
      have hnone : n - c.utf8Size = 0 := by omega
      rw [if_neg hfits, if_congr (cutsCharacter_cons_of_lt (Nat.lt_of_not_le hfits)) rfl rfl, hnone,
        List.take_zero, List.append_nil, List.nil_append]
      by_cases hpos : 0 < n
      · rw [if_pos hpos]
        exact decodeFrom_take_encodeChar c hpos (Nat.lt_of_not_le hfits)
      · rw [if_neg hpos, Nat.eq_zero_of_not_pos hpos]
        rfl

end Utf8

/-- Of a text that is cut, what is read is the characters in front of the cut, and a replacement if
    the cut goes through a character. -/
theorem decodeLossy_take (n : Nat) (text : String) :
    decodeLossy ((utf8 text).take n) = String.ofList (takeBytes n text.toList ++
      if CutsCharacter n text.toList then [Utf8.replacement] else []) := by
  rw [decodeLossy, utf8_eq_flatMap, Utf8.decodeFrom_take]

end LanWatch.Text
