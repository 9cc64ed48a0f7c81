import LanWatch.Frame.InPlace
import LanWatch.Proofs.Guarded.Reads
import Mathlib.Data.List.Basic

namespace LanWatch

/-!
# Reads in place go on from where they are

A read in place gives the bytes that come next and moves past them, or it tells how many are missing
and stays. So whatever is asked for, one read after another, the bytes that were read or passed over
are the beginning of the layer, up to where the reader is then, and none of them was read twice.

* `Reader.Action.bytes_run` — what a read in place does, for any number of bytes;
* `Read.Spells`, `Read.Passed` — the bytes that were read, by what was given for them;
* `Read.understand`, `Read.inPlace_eq` — every read is a read of its bytes and what it makes of them;
* `Read.answer_of_le`, `Read.answer_of_lt` — the two ways in which a read can end;
* `Read.Run`, `Read.exists_run` — what reads come to, one after another;
* `Read.answers_pass_prefix` — reads from the start of a layer.
-/

/-- The bytes end before any position that is no machine word. -/
theorem Guarded.filter_checkedAdd {length : Nat} (h : length < Nat.pow 2 63) (a b : Nat) :
    (checkedAdd a b).filter (· ≤ length) = if a + b ≤ length then some (a + b) else none := by
  unfold checkedAdd
  by_cases hle : a + b ≤ length
  · have hword : a + b < Nat.pow 2 64 := show a + b < 2 * Nat.pow 2 63 by omega
    rw [if_pos hword, if_pos hle]
    exact Option.filter_some_pos (decide_eq_true hle)
  · rw [if_neg hle]
    split
    · exact Option.filter_some_neg (by simpa using hle)
    · rfl

namespace Reader.Action

variable {α β : Type} {r r' : Reader} {x : Reader.Action α}

/-- What follows sees the reader in use. -/
theorem get_bind (next : Reader → Reader.Action α) (r : Reader) :
    (get >>= next : Reader.Action α).run.run r = (next r).run.run r := rfl

/-- A read that gives a value is followed by what makes use of it, where the read has left the
    reader. -/
theorem bind_of_ok {a : α} (h : x.run.run r = .ok (.ok a, r')) (next : α → Reader.Action β) :
    (x >>= next).run.run r = (next a).run.run r' := by
  show x.run.run r >>= _ = _
  rw [h]
  rfl

/-- A read that fails is followed by nothing, and the reader stays where the read has left it. -/
theorem bind_of_error {e : DecodeError} (h : x.run.run r = .ok (.error e, r'))
    (next : α → Reader.Action β) : (x >>= next).run.run r = .ok (.error e, r') := by
  show x.run.run r >>= _ = _
  rw [h]
  rfl

/-- The reader moves if it reads, and only then. -/
theorem bytes_run (h : r.Fits) (n : UInt64) :
    (bytes n).run.run r =
      if n.toNat ≤ r.cursor.remaining then
        .ok (.ok (r.cursor.rest.take n.toNat), r.moved n.toNat)
      else .ok (.error (r.cursor.short n.toNat), r) := by
  have hposition := h.position_le
  -- The checked end of the slice is there exactly if that many bytes lie ahead.
  have hlast := Guarded.filter_checkedAdd h.addressable r.position n.toNat
  have hremaining := r.remaining_cursor
  by_cases hle : n.toNat ≤ r.cursor.remaining
  · rw [if_pos (by omega)] at hlast
    rw [if_pos hle, bytes, get_bind]
    simp only [hlast, h.remaining_eq, slice_ahead h hle]
    rfl
  · rw [if_neg (by omega)] at hlast
    rw [if_neg hle, bytes, get_bind]
    simp only [hlast, h.remaining_eq]
    rfl

/-- Bytes that lie ahead are given, and the reader moves past them. -/
theorem bytes_of_le (h : r.Fits) {n : UInt64} (hle : n.toNat ≤ r.cursor.remaining) :
    (bytes n).run.run r = .ok (.ok (r.cursor.rest.take n.toNat), r.moved n.toNat) := by
  rw [bytes_run h, if_pos hle]

/-- If too few lie ahead the reader stays where it is. -/
theorem bytes_of_lt (h : r.Fits) {n : UInt64} (hlt : r.cursor.remaining < n.toNat) :
    (bytes n).run.run r = .ok (.error (r.cursor.short n.toNat), r) := by
  rw [bytes_run h, if_neg (Nat.not_le.2 hlt)]

end Reader.Action

namespace Read

/-! ### Which bytes were read -/

/-- What a read gives tells which bytes it has read. Of bytes that were passed over, it tells only
    how many they are. -/
inductive Spells : Read → Given → Bytes → Prop where
  | u8 (b : UInt8) : Spells .u8 (.byte b) [b]
  | u16 {n : UInt16} {high low : UInt8} (h : n.toNat = 256 * high.toNat + low.toNat) :
    Spells .u16 (.number n) [high, low]
  | bytes {n : UInt64} {bytes : Bytes} (h : bytes.length = n.toNat) :
    Spells (.bytes n) (.bytes bytes) bytes
  | skip {n : UInt64} {bytes : Bytes} (h : bytes.length = n.toNat) :
    Spells (.skip n) .nothing bytes

/-- The bytes that reads have read one after another. A read that failed has read none. -/
inductive Passed : List Read → List Answer → Bytes → Prop where
  | nil : Passed [] [] []
  | given {read : Read} {given : Given} {bytes : Bytes} {reads : List Read} {as : List Answer}
    {rest : Bytes} (h : read.Spells given bytes) (hrest : Passed reads as rest) :
    Passed (read :: reads) (.ok given :: as) (bytes ++ rest)
  | failed {read : Read} {e : DecodeError} {reads : List Read} {as : List Answer} {rest : Bytes}
    (hrest : Passed reads as rest) : Passed (read :: reads) (.error e :: as) rest

/-! ### One read -/

/-- What a read makes of the bytes that it asked for. -/
def understand : Read → Bytes → Reader.Action Given
  | .u8, data => return .byte (← Guarded.byteAt data 0)
  | .u16, data => return .number (be16 (← Guarded.byteAt data 0) (← Guarded.byteAt data 1))
  | .bytes _, data => return .bytes data
  | .skip _, _ => return .nothing

/-- Every read reads its bytes first, and then makes something of them. -/
theorem inPlace_eq (read : Read) :
    read.inPlace = Reader.Action.bytes read.count >>= read.understand := by
  cases read with
  | u8 =>
    rw [inPlace, Reader.Action.u8, bind_assoc]
    rfl
  | u16 =>
    simp only [inPlace, Reader.Action.u16, bind_assoc, pure_bind]
    rfl
  | bytes n => rfl
  | skip n =>
    rw [inPlace, Reader.Action.skip, bind_assoc]
    rfl

section One

variable {read : Read} {given : Given} {bytes : Bytes} {r r' : Reader} {c : Cursor}

/-- As many bytes as a read asks for spell something that it can give. -/
theorem exists_spells (h : bytes.length = read.width) : ∃ given, read.Spells given bytes := by
  cases read with
  | u8 =>
    obtain ⟨b, rfl⟩ := List.length_eq_one_iff.1 h
    exact ⟨.byte b, .u8 b⟩
  | u16 =>
    obtain ⟨high, low, rfl⟩ := List.length_eq_two.1 h
    exact ⟨.number (be16 high low), .u16 (by rw [be16_toNat, Nat.mul_comm])⟩
  | bytes n => exact ⟨.bytes bytes, .bytes h⟩
  | skip n => exact ⟨.nothing, .skip h⟩

/-- A read takes as many bytes as it is wide. -/
theorem Spells.length_eq (h : read.Spells given bytes) : bytes.length = read.width := by
  cases h with
  | u8 b => rfl
  | u16 h => rfl
  | bytes h => exact h
  | skip h => exact h

/-- A number is spelled by its two bytes in one way. -/
theorem eq_be16 {n : UInt16} {high low : UInt8} (h : n.toNat = 256 * high.toNat + low.toNat) :
    n = be16 high low :=
  UInt16.toNat_inj.1 (by rw [be16_toNat, h, Nat.mul_comm])

/-- A read in place gives what its bytes spell. -/
theorem answer_of_spells (h : read.Spells given bytes)
    (hread : (Reader.Action.bytes read.count).run.run r = .ok (.ok bytes, r')) :
    read.answer r = .ok (.ok given, r') := by
  rw [answer, inPlace_eq, Reader.Action.bind_of_ok hread]
  cases h with
  | u8 b => rfl
  | u16 h =>
    rw [eq_be16 h]
    rfl
  | bytes h => rfl
  | skip h => rfl

/-- A read in place fails as the read of its bytes does. -/
theorem answer_of_error {e : DecodeError}
    (hread : (Reader.Action.bytes read.count).run.run r = .ok (.error e, r')) :
    read.answer r = .ok (.error e, r') := by
  rw [answer, inPlace_eq, Reader.Action.bind_of_error hread]

/-- A read with a cursor gives what the bytes ahead of it spell. -/
theorem cursor_answer_of_spells (h : read.Spells given bytes) {rest : Bytes}
    (hrest : c.rest = bytes ++ rest) : c.answer read = (.ok given, c.advance read.width) := by
  -- The bytes that spell the answer are the ones that the cursor takes.
  have htake : c.take read.width = .ok (bytes, c.advance read.width) := by
    refine Cursor.take_eq_ok_iff.2 ⟨?_, ?_, rfl⟩
    · rw [Cursor.remaining, hrest, List.length_append, h.length_eq]
      exact Nat.le_add_right _ _
    · rw [hrest, List.take_left' h.length_eq]
  cases h with
  | u8 b =>
    rw [Cursor.answer, Cursor.read, Cursor.u8, hrest]
    rfl
  | u16 h =>
    rw [Cursor.answer, Cursor.read, Cursor.u16, hrest, eq_be16 h]
    rfl
  | @bytes n _ h =>
    have hbytes : c.take n.toNat = _ := htake
    rw [Cursor.answer, Cursor.read, hbytes]
    rfl
  | @skip n _ h =>
    have hbytes : c.take n.toNat = _ := htake
    rw [Cursor.answer, Cursor.read, Cursor.skip, hbytes]
    rfl

/-- With too few bytes ahead, it tells so. -/
theorem cursor_answer_of_lt (hlt : c.remaining < read.width) :
    c.answer read = (.error (c.short read.width), c) := by
  -- One byte and two bytes are read by a match on what lies ahead, the others by a take.
  have htake : c.take read.width = .error (c.short read.width) :=
    Cursor.take_eq_error_iff.2 ⟨hlt, rfl⟩
  cases read with
  | u8 =>
    have hrest : c.rest = [] := List.length_eq_zero_iff.1 (Nat.lt_one_iff.1 hlt)
    rw [Cursor.answer, Cursor.read, Cursor.u8, hrest]
    rfl
  | u16 =>
    obtain hnone | hone := Nat.le_one_iff_eq_zero_or_eq_one.1 (Nat.le_of_lt_succ hlt)
    · rw [Cursor.answer, Cursor.read, Cursor.u16, List.length_eq_zero_iff.1 hnone]
      rfl
    · obtain ⟨b, hrest⟩ := List.length_eq_one_iff.1 hone
      rw [Cursor.answer, Cursor.read, Cursor.u16, hrest]
      rfl
  | bytes n =>
    have hbytes : c.take n.toNat = _ := htake
    rw [Cursor.answer, Cursor.read, hbytes]
    rfl
  | skip n =>
    have hbytes : c.take n.toNat = _ := htake
    rw [Cursor.answer, Cursor.read, Cursor.skip, hbytes]
    rfl

/-- With enough bytes ahead, a read gives them and moves past them. -/
theorem answer_of_le (h : r.Fits) (hle : read.width ≤ r.cursor.remaining) :
    ∃ given, read.Spells given (r.cursor.rest.take read.width) ∧
      read.answer r = .ok (.ok given, r.moved read.width) ∧
      r.cursor.answer read = (.ok given, r.cursor.advance read.width) := by
  obtain ⟨given, hspells⟩ := exists_spells (List.length_take_of_le hle)
  exact ⟨given, hspells, answer_of_spells hspells (Reader.Action.bytes_of_le h hle),
    cursor_answer_of_spells hspells (List.take_append_drop _ _).symm⟩

/-- With too few of them, it tells how many there are and stays. -/
theorem answer_of_lt (h : r.Fits) (hlt : r.cursor.remaining < read.width) :
    read.answer r = .ok (.error (r.cursor.short read.width), r) ∧
      r.cursor.answer read = (.error (r.cursor.short read.width), r.cursor) :=
  ⟨answer_of_error (Reader.Action.bytes_of_lt h hlt), cursor_answer_of_lt hlt⟩

end One

/-! ### One read after another -/

variable {r : Reader}

/-- A read that gives an answer is followed by the others, from where it has left the reader. -/
theorem answers_cons {read : Read} {a : Answer} {r' : Reader} (h : read.answer r = .ok (a, r'))
    {reads : List Read} {as : List Answer} {r'' : Reader} (hrest : answers reads r' = .ok (as, r'')) :
    answers (read :: reads) r = .ok (a :: as, r'') := by
  rw [answers, h]
  show answers reads r' >>= _ = _
  rw [hrest]
  rfl

/-- What reads come to, one after another: what they answer and the reader that they leave, in place
    as well as with a cursor, and the bytes that they pass on the way. -/
structure Run (reads : List Read) (r : Reader) (as : List Answer) (r' : Reader) (passed : Bytes) :
    Prop where
  in_place : answers reads r = .ok (as, r')
  with_cursor : r.cursor.answers reads = (as, r'.cursor)
  fits : r'.Fits
  layer : r'.layer = r.layer
  data : r'.data = r.data
  position : r'.position = r.position + passed.length
  accounts : Passed reads as passed
  /-- What was passed came first of what lay ahead, and what lies ahead now came after it. -/
  rest : r.cursor.rest = passed ++ r'.cursor.rest

theorem exists_run (h : r.Fits) (reads : List Read) : ∃ as r' passed, Run reads r as r' passed := by
  -- By induction on the reads: each of them leaves a reader that fits, for the others to go on.
  induction reads generalizing r with
  | nil => exact ⟨[], r, [], rfl, rfl, h, rfl, rfl, rfl, .nil, rfl⟩
  | cons read reads ih =>
    by_cases hle : read.width ≤ r.cursor.remaining
    · obtain ⟨given, hspells, hanswer, hcursor⟩ := answer_of_le h hle
      obtain ⟨as, r', passed, hrun⟩ := ih (Reader.fits_moved h hle)
      have hcursors := hrun.with_cursor
      have hrest := hrun.rest
      rw [Reader.cursor_moved] at hcursors hrest
      refine ⟨.ok given :: as, r', r.cursor.rest.take read.width ++ passed,
        answers_cons hanswer hrun.in_place, ?_, hrun.fits, hrun.layer, hrun.data, ?_,
        .given hspells hrun.accounts, ?_⟩
      · rw [Cursor.answers, hcursor]
        simp only [hcursors]
      · rw [hrun.position, List.length_append, List.length_take_of_le hle]
        exact Nat.add_assoc _ _ _
      · rw [List.append_assoc, ← hrest]
        exact (List.take_append_drop _ _).symm
    · -- Nothing is read, so the others start where this one did.
      obtain ⟨hanswer, hcursor⟩ := answer_of_lt h (Nat.not_le.1 hle)
      obtain ⟨as, r', passed, hrun⟩ := ih h
      refine ⟨.error _ :: as, r', passed, answers_cons hanswer hrun.in_place, ?_, hrun.fits,
        hrun.layer, hrun.data, hrun.position, .failed hrun.accounts, hrun.rest⟩
      rw [Cursor.answers, hcursor]
      simp only [hrun.with_cursor]

/-- From the start of a layer, as many bytes were passed as the position tells, and they come
    first. -/
theorem Run.eq_take {layer : String} {data passed : Bytes} {reads : List Read} {as : List Answer}
    {r : Reader} (h : Run reads (.start layer data) as r passed) :
    passed = data.take r.position := by
  have hrest : data = passed ++ r.cursor.rest := h.rest
  have hlength : r.position = passed.length := h.position.trans (Nat.zero_add _)
  rw [hrest, List.take_left' hlength.symm]

/-- Reads from the start of a layer, whatever they ask for: none of them leaves the domain of an
    operation, they answer what they answer with a cursor, and the position stays within the bytes,
    of which those before it are what was read or passed over so far. The next read succeeds exactly
    if as many bytes as it asks for lie ahead. Then it gives these and moves past them; or else it
    tells where it is, how many it needs and how many there are, and the reader stays as it is. -/
theorem answers_pass_prefix (layer : String) {data : Bytes} (h : data.Addressable)
    (reads : List Read) : ∃ as position,
      answers reads (.start layer data) = .ok (as, ⟨layer, data, position⟩) ∧
      (Cursor.start layer data).answers reads = (as, ⟨layer, position, data.drop position⟩) ∧
      position ≤ data.length ∧ Passed reads as (data.take position) ∧
      (Reader.mk layer data position).remaining = .ok (data.length - position) ∧
      ∀ read : Read,
        (read.width ≤ data.length - position → ∃ given,
          read.answer ⟨layer, data, position⟩ =
            .ok (.ok given, ⟨layer, data, position + read.width⟩) ∧
          read.Spells given ((data.drop position).take read.width)) ∧
        (data.length - position < read.width →
          read.answer ⟨layer, data, position⟩ =
            .ok (.error (.truncated layer position read.width (data.length - position)),
              ⟨layer, data, position⟩)) := by
  -- The run of the reads leaves a reader on the same data, at the place that all have passed.
  obtain ⟨as, ⟨layer', data', position⟩, passed, hrun⟩ := exists_run (Reader.fits_start layer h) reads
  obtain rfl : layer' = layer := hrun.layer
  obtain rfl : data' = data := hrun.data
  have hpassed := hrun.accounts
  rw [hrun.eq_take] at hpassed
  have hremaining := Reader.remaining_cursor ⟨layer', data', position⟩
  have hknown := hrun.fits.remaining_eq
  rw [hremaining] at hknown
  refine ⟨as, position, hrun.in_place, hrun.with_cursor, hrun.fits.position_le, hpassed, hknown,
    fun read => ⟨?_, ?_⟩⟩
  · -- The next read succeeds or fails by the bytes between the place and the end.
    intro hle
    obtain ⟨given, hspells, hanswer, -⟩ := answer_of_le hrun.fits (hremaining ▸ hle)
    exact ⟨given, hanswer, hspells⟩
  · intro hlt
    have hanswer := (answer_of_lt hrun.fits (hremaining ▸ hlt)).1
    rw [Cursor.short, hremaining] at hanswer
    exact hanswer

/-- Two reads that ask for too much, one of them for so much that no position is that far ahead. The
    reads after them find the reader where it was, and together read all there is. -/
theorem answers_pass_prefix_of_four_bytes :
    Bytes.Addressable [1, 2, 3, 4] ∧
      answers [.skip 1, .bytes 0xffffffffffffffff, .u16, .u16, .u8] (.start "test" [1, 2, 3, 4]) =
        .ok ([.ok .nothing, .error (.truncated "test" 1 0xffffffffffffffff 3),
          .ok (.number 0x0203), .error (.truncated "test" 3 2 1), .ok (.byte 4)],
          ⟨"test", [1, 2, 3, 4], 4⟩) ∧
      Passed [.skip 1, .bytes 0xffffffffffffffff, .u16, .u16, .u8]
        [.ok .nothing, .error (.truncated "test" 1 0xffffffffffffffff 3), .ok (.number 0x0203),
          .error (.truncated "test" 3 2 1), .ok (.byte 4)] [1, 2, 3, 4] ∧
      Read.u8.answer ⟨"test", [1, 2, 3, 4], 4⟩ =
        .ok (.error (.truncated "test" 4 1 0), ⟨"test", [1, 2, 3, 4], 4⟩) := by
  have haddressable : Bytes.Addressable [1, 2, 3, 4] := by
    unfold Bytes.Addressable
    decide
  have hanswers : answers [.skip 1, .bytes 0xffffffffffffffff, .u16, .u16, .u8]
      (.start "test" [1, 2, 3, 4]) =
        .ok ([.ok .nothing, .error (.truncated "test" 1 0xffffffffffffffff 3),
          .ok (.number 0x0203), .error (.truncated "test" 3 2 1), .ok (.byte 4)],
          ⟨"test", [1, 2, 3, 4], 4⟩) := rfl
  obtain ⟨as, position, hsame, -, -, hpassed, -, hnext⟩ := answers_pass_prefix "test" haddressable
    [.skip 1, .bytes 0xffffffffffffffff, .u16, .u16, .u8]
  obtain ⟨rfl, hreader⟩ := Prod.mk.inj (Except.ok.inj (hanswers.symm.trans hsame))
  obtain rfl : 4 = position := congrArg Reader.position hreader
  exact ⟨haddressable, hanswers, hpassed, (hnext .u8).2 (by decide)⟩

end Read

end LanWatch
