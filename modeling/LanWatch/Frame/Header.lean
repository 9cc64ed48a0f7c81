import LanWatch.Bytes

namespace LanWatch

/-!
# Headers of a fixed length

The headers of the lower layers have a length of their own. Whoever reads one takes byte after byte,
gives up if there are too few, and does not look at what follows. A field is known by its place.

* `FixedHeader` — a reader of such a header;
* `FixedHeader.eq_none_iff` — a header is missing exactly if there are too few bytes for it;
* `FixedHeader.of_prefix` — a header that is all there is read from more bytes, too.
-/

/-- The reader takes as many bytes as its header has, one after another. After the last one it gives
    the header, whatever follows. -/
inductive FixedHeader {α : Type} : Nat → (Bytes → Option α) → Prop where
  | done {read : Bytes → Option α} {a : α} (h : ∀ bytes, read bytes = some a) : FixedHeader 0 read
  | byte {read : Bytes → Option α} {n : Nat} (hnil : read [] = none)
      (h : ∀ b, FixedHeader n fun rest => read (b :: rest)) : FixedHeader (n + 1) read

namespace FixedHeader

variable {α : Type} {n : Nat} {read : Bytes → Option α}

/-- A header is missing exactly if there are too few bytes for it. -/
theorem eq_none_iff (h : FixedHeader n read) (bytes : Bytes) :
    read bytes = none ↔ bytes.length < n := by
  -- By induction on the length of the header.
  induction h generalizing bytes with
  | done h => simp [h]
  | byte hnil _ ih =>
    cases bytes with
    | nil => simp [hnil]
    | cons b rest => simpa using ih b rest

/-- More bytes behind a header do not change it. -/
theorem of_prefix (h : FixedHeader n read) {short long : Bytes} (hcut : short <+: long) {a : α}
    (hread : read short = some a) : read long = some a := by
  -- By induction on the length of the header: as long as a byte is missing nothing is read.
  induction h generalizing short long with
  | done h => rw [h long, ← h short, hread]
  | byte hnil _ ih =>
    obtain ⟨more, rfl⟩ := hcut
    cases short with
    | nil =>
      rw [hnil] at hread
      cases hread
    | cons b rest => exact ih b (List.prefix_append rest more) hread

end FixedHeader

end LanWatch
