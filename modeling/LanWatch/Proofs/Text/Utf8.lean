import LanWatch.Text.Utf8
import Mathlib.Algebra.Order.Ring.Nat
import Mathlib.Tactic.Ring

namespace LanWatch.Text

/-!
# What decoding bytes can give

Decoding never gives more characters than there are bytes, and it gives an ASCII character only for
the byte of that character: the characters that take several bytes are all beyond ASCII, since an
overlong sequence is none.

* `Utf8.State.Sound` — whatever bytes follow, the character begun will be one beyond ASCII;
* `Utf8.lead_cases` — what a byte between characters gives;
* `Utf8.sound_lead`, `Utf8.State.Sound.next` — reading keeps the state sound;
* `Utf8.mem_decodeFrom_iff` — where ASCII characters come from;
* `length_decodeLossy_le`, `mem_decodeLossy_iff` — what follows for a stretch of bytes.
-/

namespace Utf8

theorem toNat_ofNat {n : Nat} (h : n.isValidChar) : (Char.ofNat n).toNat = n := by
  unfold Char.ofNat
  rw [dif_pos h]
  unfold Char.ofNatAux Char.toNat
  simp

/-! ### Characters begun -/

/-- Whatever bytes complete the character begun, its number is that of a character beyond ASCII. -/
def State.Sound : State → Prop
  | ground => True
  | inside value owed low high =>
    0 < owed ∧ 0x80 ≤ low ∧ high ≤ 0xbf ∧
      ∀ r, (low - 0x80) * 64 ^ (owed - 1) ≤ r → r < (high - 0x7f) * 64 ^ (owed - 1) →
        0x80 ≤ value * 64 ^ owed + r ∧ (value * 64 ^ owed + r).isValidChar

/-- A byte between characters is an ASCII character, begins one beyond ASCII, or is replaced. -/
theorem lead_cases (b : UInt8) :
    (b.toNat < 0x80 ∧ lead b = ⟨some (Char.ofNat b.toNat), .ground, false⟩) ∨
    (∃ value owed low high, lead b = ⟨none, .inside value owed low high, false⟩ ∧
      (State.inside value owed low high).Sound) ∨
    lead b = ⟨some replacement, .ground, true⟩ := by
  unfold lead
  simp only
  split
  · rename_i hascii
    exact .inl ⟨hascii, rfl⟩
  · right
    -- The ranges of the second byte leave out what is overlong, a surrogate, or too large.
    repeat' split
    case isFalse.isFalse => exact .inr rfl
    all_goals
      refine .inl ⟨_, _, _, _, rfl, by omega, by omega, by omega, ?_⟩
      intro r hlow hhigh
      simp only [Nat.isValidChar]
      omega

theorem sound_lead (b : UInt8) : (lead b).next.Sound := by
  -- One case for each kind of lead.
  rcases lead_cases b with ⟨-, hlead⟩ | ⟨value, owed, low, high, hlead, hsound⟩ | hlead
  · rw [hlead]
    trivial
  · rw [hlead]
    exact hsound
  · rw [hlead]
    trivial

/-- A byte that continues a character leaves less of it to come. -/
theorem State.Sound.next {value owed low high : Nat} {b : UInt8}
    (h : (State.inside value owed low high).Sound) (hfits : low ≤ b.toNat ∧ b.toNat ≤ high)
    (hmore : ¬owed ≤ 1) :
    (State.inside (value * 64 + (b.toNat - 0x80)) (owed - 1) 0x80 0xbf).Sound := by
  obtain ⟨-, hlow, hhigh, hrange⟩ := h
  refine ⟨by omega, Nat.le_refl _, Nat.le_refl _, ?_⟩
  intro r _ hr
  obtain ⟨n, rfl⟩ : ∃ n, owed = n + 2 := ⟨owed - 2, by omega⟩
  rw [show n + 2 - 1 = n + 1 from rfl] at hrange hr ⊢
  rw [show n + 1 - 1 = n from rfl] at hr
  have hrest : r < 64 ^ (n + 1) := by
    rw [Nat.pow_succ, Nat.mul_comm]
    exact hr
  -- The byte and what follows it are one continuation of what was begun before.
  have hsplit : (value * 64 + (b.toNat - 0x80)) * 64 ^ (n + 1) + r =
      value * 64 ^ (n + 2) + ((b.toNat - 0x80) * 64 ^ (n + 1) + r) := by
    ring
  rw [hsplit]
  apply hrange
  · have hle := Nat.mul_le_mul_right (64 ^ (n + 1)) (Nat.sub_le_sub_right hfits.1 0x80)
    omega
  · have hle : (b.toNat - 0x80 + 1) * 64 ^ (n + 1) ≤ (high - 0x7f) * 64 ^ (n + 1) :=
      Nat.mul_le_mul_right _ (by omega)
    rw [Nat.add_mul, Nat.one_mul] at hle
    omega

/-- The last byte of a character gives one beyond ASCII. -/
theorem State.Sound.last {value owed low high : Nat} {b : UInt8}
    (h : (State.inside value owed low high).Sound) (hfits : low ≤ b.toNat ∧ b.toNat ≤ high)
    (hlast : owed ≤ 1) : 0x80 ≤ (Char.ofNat (value * 64 + (b.toNat - 0x80))).toNat := by
  obtain ⟨howed, hlow, hhigh, hrange⟩ := h
  obtain rfl : owed = 1 := by omega
  obtain ⟨hlarge, hvalid⟩ := hrange (b.toNat - 0x80) (by omega) (by omega)
  rw [Nat.pow_one] at hlarge hvalid
  rw [toNat_ofNat hvalid]
  exact hlarge

/-! ### What is decoded -/

/-- A character begun counts as one. -/
def State.begun : State → Nat
  | ground => 0
  | inside _ _ _ _ => 1

/-- A byte completes a character or begins one. -/
theorem length_lead (b : UInt8) : (lead b).out.toList.length + (lead b).next.begun = 1 := by
  rcases lead_cases b with ⟨-, hlead⟩ | ⟨value, owed, low, high, hlead, -⟩ | hlead
  all_goals
    rw [hlead]
    rfl

/-- By the recursion of decoding: no byte gives more than one character. -/
theorem length_decodeFrom_le (state : State) (bytes : Bytes) :
    (decodeFrom state bytes).length ≤ bytes.length + state.begun := by
  -- A byte gives one character, a continuation byte none until the last, and a broken sequence one
  -- for what it has begun.
  induction state, bytes using decodeFrom.induct with
  | case1 => exact Nat.le_refl _
  | case2 value owed low high => exact Nat.le_refl _
  | case3 b bs ih =>
    have hlead := length_lead b
    rw [decodeFrom, List.length_append, List.length_cons, State.begun]
    omega
  | case4 value owed low high b bs hfits hlast ih =>
    rw [decodeFrom, if_pos hfits, if_pos hlast, List.length_cons, List.length_cons]
    exact Nat.succ_le_succ (Nat.le_succ_of_le ih)
  | case5 value owed low high b bs hfits next hmore ih =>
    rw [decodeFrom, if_pos hfits, if_neg hmore, List.length_cons]
    exact Nat.le_succ_of_le ih
  | case6 value owed low high b bs hbad ih =>
    have hlead := length_lead b
    rw [decodeFrom, if_neg hbad, List.length_cons, List.length_append, List.length_cons,
      State.begun]
    omega

/-! ### ASCII characters -/

theorem toNat_byte {c : Char} (hc : c.toNat < 0x80) : (UInt8.ofNat c.toNat).toNat = c.toNat :=
  UInt8.toNat_ofNat_of_lt' (Nat.lt_trans hc (by decide))

/-- A byte between characters gives an ASCII character exactly if it is that character's byte. -/
theorem mem_lead_iff {c : Char} (hc : c.toNat < 0x80) (b : UInt8) :
    c ∈ (lead b).out.toList ↔ UInt8.ofNat c.toNat = b := by
  by_cases hb : b.toNat < 0x80
  · have hlead : (lead b).out = some (Char.ofNat b.toNat) := by simp [lead, hb]
    rw [hlead, Option.toList_some, List.mem_singleton]
    constructor
    · rintro rfl
      rw [toNat_ofNat (.inl (by omega)), UInt8.ofNat_toNat]
    · rintro rfl
      rw [toNat_byte hc, Char.ofNat_toNat]
  · -- The byte is beyond ASCII, and so is a character that it gives.
    have hne : UInt8.ofNat c.toNat ≠ b := by
      intro h
      rw [← h, toNat_byte hc] at hb
      exact hb hc
    refine iff_of_false (fun h => ?_) hne
    rcases lead_cases b with ⟨hascii, -⟩ | ⟨value, owed, low, high, hlead, -⟩ | hlead
    · exact hb hascii
    · rw [hlead] at h
      cases h
    · rw [hlead, Option.toList_some, List.mem_singleton] at h
      subst h
      exact absurd hc (by decide)

/-- The mark for what cannot be decoded is no character of one byte. -/
theorem ne_replacement {c : Char} (hc : c.toNat < 0x80) : c ≠ replacement := by
  rintro rfl
  exact absurd hc (by decide)

/-- A byte that continues a character is the byte of no ASCII character. -/
theorem State.Sound.ne_of_fits {value owed low high : Nat} {b : UInt8}
    (h : (State.inside value owed low high).Sound) (hfits : low ≤ b.toNat ∧ b.toNat ≤ high)
    {c : Char} (hc : c.toNat < 0x80) : UInt8.ofNat c.toNat ≠ b := by
  obtain ⟨-, hlow, -⟩ := h
  intro hb
  rw [← hb, toNat_byte hc] at hfits
  omega

/-- By the recursion of decoding: ASCII characters come from their own bytes, and from no others,
    since a sound state admits no overlong sequences. -/
theorem mem_decodeFrom_iff {state : State} (hs : state.Sound) {c : Char} (hc : c.toNat < 0x80)
    (bytes : Bytes) : c ∈ decodeFrom state bytes ↔ UInt8.ofNat c.toNat ∈ bytes := by
  -- An ASCII byte never goes into a longer character, neither as its lead nor as a continuation.
  induction state, bytes using decodeFrom.induct with
  | case1 => simp [decodeFrom]
  | case2 value owed low high => simp [decodeFrom, ne_replacement hc]
  | case3 b bs ih =>
    rw [decodeFrom, List.mem_append, mem_lead_iff hc, ih (sound_lead b), List.mem_cons]
  | case4 value owed low high b bs hfits hlast ih =>
    -- A character of several bytes is beyond ASCII.
    have hlarge := hs.last hfits hlast
    have hne : c ≠ Char.ofNat (value * 64 + (b.toNat - 0x80)) := by
      intro h
      rw [← h] at hlarge
      exact absurd hc (Nat.not_lt.2 hlarge)
    rw [decodeFrom, if_pos hfits, if_pos hlast, List.mem_cons, List.mem_cons, ih trivial]
    simp [hne, hs.ne_of_fits hfits hc]
  | case5 value owed low high b bs hfits next hmore ih =>
    rw [decodeFrom, if_pos hfits, if_neg hmore, List.mem_cons, ih (hs.next hfits hmore)]
    simp [hs.ne_of_fits hfits hc]
  | case6 value owed low high b bs hbad ih =>
    rw [decodeFrom, if_neg hbad, List.mem_cons, List.mem_append, mem_lead_iff hc,
      ih (sound_lead b), List.mem_cons]
    simp [ne_replacement hc]

end Utf8

/-! ### Stretches of bytes -/

/-- There are no more characters than bytes. -/
theorem length_decodeLossy_le (bytes : Bytes) : (decodeLossy bytes).length ≤ bytes.length := by
  rw [decodeLossy, String.length_ofList]
  exact Utf8.length_decodeFrom_le .ground bytes

/-- An ASCII character stands in the text exactly if its byte is among the bytes. -/
theorem mem_decodeLossy_iff {c : Char} (hc : c.toNat < 0x80) (bytes : Bytes) :
    c ∈ (decodeLossy bytes).toList ↔ UInt8.ofNat c.toNat ∈ bytes := by
  rw [decodeLossy, String.toList_ofList]
  have hground : Utf8.State.Sound .ground := trivial
  exact Utf8.mem_decodeFrom_iff hground hc bytes

/-- Without a NUL among the bytes there is none among the characters. -/
theorem nul_notMem_decodeLossy {bytes : Bytes} (h : 0 ∉ bytes) :
    '\x00' ∉ (decodeLossy bytes).toList :=
  mt (mem_decodeLossy_iff (by decide) bytes).1 h

end LanWatch.Text
