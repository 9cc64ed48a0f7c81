import LanWatch.Frame.Cursor
import Mathlib.Data.List.Infix

namespace LanWatch

/-!
# Reads of cut bytes

Bytes that were cut at the end are the beginning of all the bytes. What can be read from them can be
read from all of them, and is the same; only a read that fails may turn out otherwise.

* `Cursor.Cut` — two cursors at one position, one of them in cut bytes;
* `Steady` — a read that gives the same when more bytes follow;
* `Cursor.steady_take`, `Cursor.steady_u8`, `Cursor.steady_u16` — the reads are steady;
* `Steady.bind`, `Cursor.Cut.skip_bind` — what follows a steady read.
-/

/-! ### Cursors -/

/-- What lies ahead of one cursor is the beginning of what lies ahead of the other. -/
def Cursor.Cut (c d : Cursor) : Prop :=
  c.rest <+: d.rest

/-- A read that succeeds gives the same when more bytes follow. -/
def Steady {α : Type} (read : Cursor → Except DecodeError (α × Cursor)) : Prop :=
  ∀ ⦃c d : Cursor⦄, c.Cut d → ∀ ⦃a : α⦄ ⦃c' : Cursor⦄, read c = .ok (a, c') →
    ∃ d', read d = .ok (a, d') ∧ c'.Cut d'

namespace Cursor

variable {c d : Cursor}

theorem cut_start (layer : String) {short long : Bytes} (h : short <+: long) :
    (start layer short).Cut (start layer long) := h

/-- Both cursors move on alike. -/
theorem Cut.advance (h : c.Cut d) (n : Nat) : (c.advance n).Cut (d.advance n) :=
  List.IsPrefix.drop h n

/-- No more lies ahead in cut bytes than in all of them. -/
theorem Cut.remaining_le (h : c.Cut d) : c.remaining ≤ d.remaining :=
  List.IsPrefix.length_le h

/-- Bytes that lie ahead in cut bytes lie ahead in all of them, and are the same. -/
theorem steady_take (n : Nat) : Steady fun c => c.take n := by
  intro c d h bytes c' hread
  obtain ⟨hn, rfl, rfl⟩ := take_eq_ok_iff.1 hread
  refine ⟨d.advance n, take_eq_ok_iff.2 ⟨Nat.le_trans hn h.remaining_le, ?_, rfl⟩, h.advance n⟩
  obtain ⟨more, hmore⟩ := h
  rw [← hmore, List.take_append_of_le_length hn]

/-- A byte that lies ahead in cut bytes is the next one in all of them. -/
theorem steady_u8 : Steady u8 := by
  intro c d h b c' hread
  obtain ⟨more, hmore⟩ := h
  unfold u8 at hread
  split at hread
  · rename_i b' rest hrest
    simp only [Except.ok.injEq, Prod.mk.injEq] at hread
    obtain ⟨rfl, rfl⟩ := hread
    refine ⟨d.advance 1, ?_, Cut.advance ⟨more, hmore⟩ 1⟩
    rw [u8, ← hmore, hrest]
    rfl
  · cases hread

/-- Two bytes that lie ahead in cut bytes are the next ones in all of them. -/
theorem steady_u16 : Steady u16 := by
  intro c d h n c' hread
  obtain ⟨more, hmore⟩ := h
  unfold u16 at hread
  split at hread
  · rename_i hi lo rest hrest
    simp only [Except.ok.injEq, Prod.mk.injEq] at hread
    obtain ⟨rfl, rfl⟩ := hread
    refine ⟨d.advance 2, ?_, Cut.advance ⟨more, hmore⟩ 2⟩
    rw [u16, ← hmore, hrest]
    rfl
  · cases hread

/-- Bytes that can be passed over in cut bytes can be passed over in all of them. -/
theorem skip_of_cut (h : c.Cut d) {n : Nat} {c' : Cursor} (hskip : c.skip n = .ok c') :
    ∃ d', d.skip n = .ok d' ∧ c'.Cut d' := by
  unfold skip at hskip ⊢
  cases htake : c.take n with
  | error e => simp [htake, Except.map] at hskip
  | ok r =>
    obtain ⟨bytes, rest⟩ := r
    simp only [htake, Except.map, Except.ok.injEq] at hskip
    obtain ⟨d', (hd : d.take n = .ok (bytes, d')), hcut⟩ := steady_take n h htake
    subst hskip
    exact ⟨d', by rw [hd]; rfl, hcut⟩

end Cursor

/-! ### What follows a read -/

variable {α β : Type}

/-- What follows a read that succeeds. -/
theorem Except.eq_ok_of_bind {ε : Type} {x : Except ε α} {f : α → Except ε β} {b : β}
    (h : (x >>= f) = .ok b) : ∃ a, x = .ok a ∧ f a = .ok b := by
  cases x with
  | error e => cases h
  | ok a => exact ⟨a, rfl, h⟩

/-- What follows a steady read gives the same if it does so wherever the read may end. -/
theorem Steady.bind {read : Cursor → Except DecodeError (α × Cursor)} (hread : Steady read)
    {c d : Cursor} (h : c.Cut d) {f g : α × Cursor → Except DecodeError β} {b : β}
    (hnext : ∀ a c' d', Cursor.Cut c' d' → f (a, c') = .ok b → g (a, d') = .ok b)
    (hok : (read c >>= f) = .ok b) : (read d >>= g) = .ok b := by
  obtain ⟨⟨a, c'⟩, hc, hrest⟩ := Except.eq_ok_of_bind hok
  obtain ⟨d', hd, hcut⟩ := hread h hc
  rw [hd]
  exact hnext a c' d' hcut hrest

/-- The same for bytes that are passed over. -/
theorem Cursor.Cut.skip_bind {c d : Cursor} (h : c.Cut d) {n : Nat}
    {f g : Cursor → Except DecodeError β} {b : β}
    (hnext : ∀ c' d', Cursor.Cut c' d' → f c' = .ok b → g d' = .ok b)
    (hok : (c.skip n >>= f) = .ok b) : (d.skip n >>= g) = .ok b := by
  obtain ⟨c', hc, hrest⟩ := Except.eq_ok_of_bind hok
  obtain ⟨d', hd, hcut⟩ := Cursor.skip_of_cut h hc
  rw [hd]
  exact hnext c' d' hcut hrest

end LanWatch
