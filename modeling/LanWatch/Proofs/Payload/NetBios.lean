import LanWatch.Frame.NetBios
import LanWatch.Proofs.Guarded.Payloads
import LanWatch.Proofs.Text.Encoding
import LanWatch.Proofs.Text.Trimming

namespace LanWatch.NetBios

/-!
# Names on their way through the name service

A host pads its name with spaces, appends the suffix of the service, and sends each byte as two
letters. Whatever stands in the packet around the letters, the name that is read is the one that was
sent; and if one of the letters is damaged, no name is read.

* `Envelope`, `Envelope.around` — what stands around the first label of a packet;
* `padded`, `letters` — a name as it is sent;
* `firstName_around` — the first label of a packet is read whole;
* `decodePairs_encode` — letters are read back as bytes;
* `decodePairs_of_mem` — what is no letter spoils all of them;
* `nameText_letters`, `trimmed_utf8` — the text of a name that was sent;
* `scan_around_letters` — what a packet with a sent name tells, and a packet with a damaged one.
-/

/-! ### Packets -/

/-- What stands around the first label of a packet that asks or answers something. -/
structure Envelope where
  /-- Transaction, flags and counts. -/
  header : Bytes
  /-- What follows the first label. -/
  rest : Bytes
  header_length : header.length = 12
  /-- The counts of questions and answers are not both zero. -/
  header_counts : (header.drop 4).take 4 ≠ [0, 0, 0, 0]

/-- A packet around its first label. -/
def Envelope.around (p : Envelope) (label : Bytes) : Bytes :=
  p.header ++ UInt8.ofNat label.length :: (label ++ p.rest)

/-- A number of two bytes is zero exactly if both are. -/
theorem be16_eq_zero_iff (hi lo : UInt8) : be16 hi lo = 0 ↔ hi = 0 ∧ lo = 0 :=
  @be16_inj hi lo 0 0

/-- A label of less than 64 bytes is not taken for a pointer, and is read whole. -/
theorem firstName_around (p : Envelope) {label : Bytes} (h : label.length < 64) :
    firstName (p.around label) = .ok (.label label) := by
  obtain ⟨header, rest, hlength, hcounts⟩ := p
  match header, hlength with
  | [h₀, h₁, h₂, h₃, q₁, q₀, a₁, a₀, h₈, h₉, h₁₀, h₁₁], _ =>
    have hsome : ¬(be16 q₁ q₀ = 0 ∧ be16 a₁ a₀ = 0) := by
      rw [be16_eq_zero_iff, be16_eq_zero_iff]
      rintro ⟨⟨rfl, rfl⟩, rfl, rfl⟩
      exact hcounts rfl
    have hlabel : (UInt8.ofNat label.length).toNat = label.length :=
      UInt8.toNat_ofNat_of_lt' (Nat.lt_trans h (by decide))
    have hpointer : isPointer (UInt8.ofNat label.length) = false := by
      simp [isPointer, hlabel, h]
    -- The header is read in four pieces, and the label after its length.
    have hstart := Cursor.skip_append "netbios" 0 (n := 4) [h₀, h₁, h₂, h₃]
      (q₁ :: q₀ :: a₁ :: a₀ :: h₈ :: h₉ :: h₁₀ :: h₁₁ :: UInt8.ofNat label.length ::
        (label ++ rest)) rfl
    have hcounted := Cursor.skip_append "netbios" 8 (n := 4) [h₈, h₉, h₁₀, h₁₁]
      (UInt8.ofNat label.length :: (label ++ rest)) rfl
    have hread := Cursor.take_append "netbios" 13 label rest rfl
    simp only [List.cons_append, List.nil_append] at hstart hcounted
    simp only [Envelope.around, List.cons_append, List.nil_append, firstName, Cursor.start, hstart,
      bind, Except.bind, Cursor.u16, Cursor.advance, List.drop, hcounted, headerLength,
      if_neg hsome, Cursor.u8, hpointer, hlabel, hread]
    rfl

/-! ### Letters -/

/-- A name padded with spaces. -/
def padded (raw : Bytes) : Bytes :=
  raw ++ List.replicate (15 - raw.length) 0x20

/-- A name as it is sent: padded, with the suffix of a service, in letters. -/
def letters (raw : Bytes) (suffix : UInt8) : Bytes :=
  encode (padded raw ++ [suffix])

/-- With its blanks a name has fifteen bytes. -/
theorem length_padded {raw : Bytes} (h : raw.length ≤ 15) : (padded raw).length = 15 := by
  rw [padded, List.length_append, List.length_replicate]
  omega

theorem length_encode (bytes : Bytes) : (encode bytes).length = 2 * bytes.length := by
  induction bytes with
  | nil => rfl
  | cons b bs ih =>
    rw [encode, List.flatMap_cons, List.length_append, ← encode, ih, encodeByte]
    simp
    omega

/-- The letters count from A on. -/
theorem toNat_letter {half : Nat} (h : half < 16) : (letter half).toNat = 0x41 + half := by
  rw [letter, UInt8.toNat_ofNat']
  omega

/-- A letter gives back the half of a byte that it stands for. -/
theorem nibble?_letter {half : Nat} (h : half < 16) : nibble? (letter half) = some half := by
  rw [nibble?, toNat_letter h, if_pos (by omega), Nat.add_sub_cancel_left]

/-- All letters are letters of a half byte. -/
theorem mem_encode {c : UInt8} {bytes : Bytes} (h : c ∈ encode bytes) :
    ∃ half < 16, c = letter half := by
  obtain ⟨b, -, hc⟩ := List.mem_flatMap.1 h
  have hb := b.toNat_lt
  rw [encodeByte, List.mem_cons, List.mem_singleton] at hc
  rcases hc with rfl | rfl
  · exact ⟨_, by omega, rfl⟩
  · exact ⟨_, by omega, rfl⟩

/-- No letter ends a name. -/
theorem endsName_of_mem_encode {c : UInt8} {bytes : Bytes} (h : c ∈ encode bytes) :
    endsName c = false := by
  obtain ⟨half, hhalf, rfl⟩ := mem_encode h
  have hnat := toNat_letter hhalf
  rw [endsName, Bool.or_eq_false_iff, beq_eq_false_iff_ne, beq_eq_false_iff_ne]
  constructor
  · intro hzero
    rw [hzero, UInt8.toNat_zero] at hnat
    omega
  · intro hscope
    rw [hscope, show scopeSeparator.toNat = 0x2e from rfl] at hnat
    omega

/-- Letters are read back in pairs. -/
theorem decodePairs_encode (bytes : Bytes) : decodePairs (encode bytes) = some bytes := by
  induction bytes with
  | nil => rfl
  | cons b bs ih =>
    have hb := b.toNat_lt
    rw [encode, List.flatMap_cons, ← encode, encodeByte, List.cons_append, List.singleton_append,
      decodePairs, nibble?_letter (by omega), nibble?_letter (by omega), ih]
    simp only [Nat.div_add_mod', UInt8.ofNat_toNat]

/-- By the recursion over the pairs: what is no letter spoils the pair that it is in. -/
theorem decodePairs_of_mem {c : UInt8} (hc : nibble? c = none) {bytes : Bytes} (h : c ∈ bytes) :
    decodePairs bytes = none := by
  -- A damaged half spoils its own pair or, by induction, a later one.
  induction bytes using decodePairs.induct with
  | case1 => cases h
  | case2 => rfl
  | case3 hi lo rest _ _ _ hrest hlo hhi ih =>
    rcases List.mem_cons.1 h with rfl | h
    · rw [hc] at hhi
      cases hhi
    rcases List.mem_cons.1 h with rfl | h
    · rw [hc] at hlo
      cases hlo
    · rw [ih h] at hrest
      cases hrest
  | case4 hi lo rest hspoiled ih =>
    rw [decodePairs]
    split
    · rename_i h l bytes hhi hlo hrest
      exact absurd hrest fun hrest => hspoiled h l bytes hhi hlo hrest
    · rfl

/-! ### Labels -/

section Labels

variable {bytes tail : Bytes}

/-- A name in a label ends where the letters end, if what follows them ends a name. -/
theorem untilByte_letters (htail : ∀ b ∈ tail.head?, endsName b = true) :
    (encode bytes ++ tail).untilByte endsName = encode bytes := by
  rw [Bytes.untilByte, List.takeWhile_append_of_pos fun b hb => by
    rw [endsName_of_mem_encode hb, Bool.not_false]]
  cases tail with
  | nil => rw [List.takeWhile_nil, List.append_nil]
  | cons b tail => simp [htail b rfl]

/-- The letters of sixteen bytes are read up to the byte that ends the name. -/
theorem name?_encode (hlength : bytes.length = 16) (htail : ∀ b ∈ tail.head?, endsName b = true) :
    name? (encode bytes ++ tail) = some (nameText bytes) := by
  have hletters : (encode bytes).length = encodedLength := by
    rw [length_encode, hlength]
    rfl
  rw [name?, untilByte_letters htail, ← hletters, List.take_length, decodePairs_encode]
  rfl

/-- Among the letters of a name, a byte that is no letter spoils the name, unless it ends it. -/
theorem name?_of_spoiled (hlength : bytes.length = 16) {i : Nat} (hi : i < 32) {c : UInt8}
    (hc : nibble? c = none) (hends : endsName c = false) :
    name? ((encode bytes).set i c ++ tail) = none := by
  have hsetLength : ((encode bytes).set i c).length = encodedLength := by
    rw [List.length_set, length_encode, hlength]
    rfl
  have hmem : c ∈ (encode bytes).set i c := by
    apply List.mem_set
    rw [length_encode, hlength]
    exact hi
  -- The spoiled byte does not end the name, so the cut comes after all letters.
  have huntil : Bytes.untilByte endsName ((encode bytes).set i c ++ tail) =
      (encode bytes).set i c ++ Bytes.untilByte endsName tail := by
    apply List.takeWhile_append_of_pos
    intro b hb
    rcases List.mem_or_eq_of_mem_set hb with hb | rfl
    · rw [endsName_of_mem_encode hb, Bool.not_false]
    · rw [hends, Bool.not_false]
  rw [name?, huntil, List.take_left' hsetLength, decodePairs_of_mem hc hmem]
  rfl

/-- Where the first byte of a pair ends a name, the name has lost half a byte before it. -/
theorem name?_of_halved (hlength : bytes.length = 16) {i : Nat} (hi : i < 32) (hodd : i % 2 = 1)
    {c : UInt8} (hends : endsName c = true) : name? ((encode bytes).set i c ++ tail) = none := by
  have hlong : i < (encode bytes).length := by
    rw [length_encode, hlength]
    exact hi
  -- The name ends at the odd place, so an odd number of letters is left.
  have huntil : Bytes.untilByte endsName ((encode bytes).set i c ++ tail) =
      (encode bytes).take i := by
    rw [List.set_eq_take_append_cons_drop, if_pos hlong, List.append_assoc, Bytes.untilByte,
      List.takeWhile_append_of_pos]
    · simp [hends]
    · intro b hb
      rw [endsName_of_mem_encode (List.mem_of_mem_take hb), Bool.not_false]
  have hcount : (((encode bytes).take i).take encodedLength).length % 2 ≠ 0 := by
    rw [List.take_take, List.length_take, encodedLength]
    omega
  rw [name?, huntil, Guarded.decodePairs_of_odd hcount]
  rfl

end Labels

/-! ### Texts -/

/-- A text without the spaces and NULs at its end. -/
def trimmed (text : String) : String :=
  String.ofList (text.toList.rdropWhile fun c => c = ' ' ∨ c = '\x00')

/-- Names are padded with blanks and with NULs. -/
theorem isPadding_eq (c : Char) : isPadding c = decide (c = ' ' ∨ c = '\x00') := by
  have hnul : c.toNat = 0 ↔ c = '\x00' :=
    ⟨fun h => Char.toNat_inj.1 h, fun h => by rw [h]; rfl⟩
  simp only [isPadding, Bool.decide_or, ← hnul]
  rfl

/-- The suffix is no part of the text. -/
theorem nameText_padded {raw : Bytes} (h : raw.length ≤ 15) (suffix : UInt8) :
    nameText (padded raw ++ [suffix]) = trimmed (Text.decodeLossy (padded raw)) := by
  have htake : (padded raw ++ [suffix]).take nameLength = padded raw :=
    List.take_left' (length_padded h)
  rw [nameText, htake, trimmed, ← funext isPadding_eq]
  rfl

theorem decodeFrom_spaces (n : Nat) :
    Text.Utf8.decodeFrom .ground (List.replicate n 0x20) = List.replicate n ' ' := by
  induction n with
  | zero => rfl
  | succ n ih =>
    rw [List.replicate_succ, Text.Utf8.decodeFrom, show Text.Utf8.lead 0x20 =
      ⟨some ' ', .ground, false⟩ from rfl, ih]
    rfl

/-- Nothing but the padding is trimmed of a name that does not end like padding. -/
theorem trimmed_padded {name : String}
    (hlast : ∀ c ∈ name.toList.getLast?, c ≠ ' ' ∧ c ≠ '\x00') :
    trimmed (Text.decodeLossy (padded (Text.utf8 name))) = name := by
  -- Trimming takes the spaces of the padding, and stops at the last character of the name.
  have hkept : ∀ n, (name.toList ++ List.replicate n ' ').rdropWhile
      (fun c => c = ' ' ∨ c = '\x00') = name.toList := by
    intro n
    induction n with
    | zero =>
      rw [List.replicate_zero, List.append_nil, List.rdropWhile_eq_self_iff]
      intro hne
      have hc := hlast _ (List.getLast_mem_getLast? hne)
      simp [hc.1, hc.2]
    | succ n ih =>
      rw [List.replicate_succ', ← List.append_assoc, List.rdropWhile_concat_pos _ _ _ (by simp), ih]
  rw [padded, Text.decodeLossy, Text.Utf8.decodeFrom_utf8, decodeFrom_spaces, trimmed,
    String.toList_ofList, hkept, String.ofList_toList]

/-! ### What a packet tells -/

/-- However a name is sent, with whatever suffix and scope and in whatever packet, the record is
    told the text of the padded name without the padding, and nothing else. So a name that does not
    end like padding is told as it is. One damaged letter, and nothing is told. -/
theorem scan_around_letters (p : Envelope) {raw : Bytes} (hraw : raw.length ≤ 15) (suffix : UInt8)
    {tail : Bytes} (htail : ∀ b ∈ tail.head?, b = 0x2e ∨ b = 0)
    (hlabel : (letters raw suffix ++ tail).length < 64) (s : Sighting) :
    let text := trimmed (Text.decodeLossy (padded raw))
    let told := scan (p.around (letters raw suffix ++ tail)) s
    told = ⟨if text = "" then s else { s with netbiosName := some text }, none, []⟩ ∧
      (∀ name : String, Text.utf8 name = raw → name ≠ "" →
        (∀ c ∈ name.toList.getLast?, c ≠ ' ' ∧ c ≠ '\x00') →
        told.sighting = { s with netbiosName := some name }) ∧
      ∀ i < 32, ∀ b : UInt8,
        ((b.toNat < 0x41 ∨ 0x50 < b.toNat) ∧ b ≠ 0x2e ∧ b ≠ 0 ∨ (b = 0x2e ∨ b = 0) ∧ i % 2 = 1) →
        scan (p.around ((letters raw suffix).set i b ++ tail)) s =
          ⟨s, none, [.undecodableName s.mac]⟩ := by
  intro text told
  -- A label ends at a dot, which begins the scope, or at a zero.
  have hends : ∀ b : UInt8, endsName b = true ↔ b = 0x2e ∨ b = 0 := by
    intro b
    rw [endsName, Bool.or_eq_true, beq_iff_eq, beq_iff_eq, Or.comm]
    rfl
  have hlength : (padded raw ++ [suffix]).length = 16 := by
    rw [List.length_append, length_padded hraw, List.length_singleton]
  -- The letters decode to the padded name, whatever stands behind them.
  have htold : told = apply (some text) s := by
    have hname := name?_encode hlength fun b hb => (hends b).2 (htail b hb)
    rw [nameText_padded hraw] at hname
    simp only [told, scan, firstName_around p hlabel]
    exact congrArg (apply · s) hname
  refine ⟨?_, ?_, ?_⟩
  · rw [htold, apply]
    split <;> rfl
  · rintro name rfl hne hlast
    rw [htold, show text = name from trimmed_padded hlast, apply, if_neg hne]
  · intro i hi b hb
    have hshort : ((letters raw suffix).set i b ++ tail).length < 64 := by
      rw [List.length_append, List.length_set, ← List.length_append]
      exact hlabel
    have hspoiled : name? ((letters raw suffix).set i b ++ tail) = none := by
      -- A byte outside the letters spoils its pair; one that ends the name at an odd place leaves
      -- half a pair.
      rcases hb with ⟨hb, hscope, hzero⟩ | ⟨hb, hodd⟩
      · apply name?_of_spoiled hlength hi
        · rw [nibble?, if_neg (by omega)]
        · rw [← Bool.not_eq_true, hends]
          simp [hscope, hzero]
      · exact name?_of_halved hlength hi hodd ((hends b).2 hb)
    rw [scan, firstName_around p hshort]
    exact congrArg (apply · s) hspoiled

/-- A query with a transaction number and one question. -/
def query : Envelope where
  header := [0x12, 0x34, 0x01, 0x10, 0x00, 0x01, 0x00, 0x00, 0x00, 0x00, 0x00, 0x00]
  rest := [0x00, 0x00, 0x20, 0x00, 0x01]
  header_length := rfl
  header_counts := by decide

/-- The name of a file server, with an umlaut and in the scope `X`. A scope that begins one letter
    early, in the middle of a pair, leaves no name. -/
theorem scan_around_letters_of_umlaut :
    let raw : Bytes := [0x50, 0x52, 0xc3, 0x9c, 0x46, 0x31]
    let s := Sighting.plain ⟨2, 0, 0, 0, 0, 1⟩ ⟨10, 0, 0, 7⟩ ⟨1, 2⟩ none .udp
    raw.length ≤ 15 ∧ (letters raw 0x20 ++ [0x2e, 0x58]).length < 64 ∧
      (scan (query.around (letters raw 0x20 ++ [0x2e, 0x58])) s).sighting.netbiosName =
        some "PRÜF1" ∧
      scan (query.around ((letters raw 0x20).set 31 0x2e ++ [0x2e, 0x58])) s =
        ⟨s, none, [.undecodableName s.mac]⟩ := by
  intro raw s
  have hraw : raw.length ≤ 15 := by decide
  have hlabel : (letters raw 0x20 ++ [0x2e, 0x58]).length < 64 := by decide
  have htail : ∀ b ∈ ([0x2e, 0x58] : Bytes).head?, b = 0x2e ∨ b = 0 := by
    intro b hb
    cases hb
    exact .inl rfl
  have hlast : ∀ c ∈ "PRÜF1".toList.getLast?, c ≠ ' ' ∧ c ≠ '\x00' := by
    intro c hc
    cases hc
    decide
  obtain ⟨-, hname, hspoiled⟩ := scan_around_letters query hraw 0x20 htail hlabel s
  refine ⟨hraw, hlabel, ?_, ?_⟩
  · rw [hname "PRÜF1" (by decide +kernel) (by decide) hlast]
  · exact hspoiled 31 (by decide) 0x2e (by decide)

end LanWatch.NetBios
