import LanWatch.Proofs.Truncation.Payloads

namespace LanWatch.ChannelAccess

/-!
# Datagrams of Channel Access and the names in them

Every body is a datagram: a list of version and search messages, and then nothing, a message with
another command, or a message that is cut short. The names in a datagram are those of its searches.
A record takes as many of them as it has room for, and a full one does not keep the rest of the
datagram from being read.

* `Header`, `Sent`, `Tail`, `Datagram` — messages and datagrams, and their bytes;
* `message_header` — what a header says of the message that it begins;
* `messages_encode` — what was written is read;
* `message_cases`, `exists_datagram` — what is read was written;
* `Message.name?`, `foldl_apply` — the names, and how a record takes them;
* `scan_datagram` — the scan of a datagram.
-/

/-! ### Datagrams -/

/-- A header: a command, the length of the payload that it declares, and twelve more bytes. -/
structure Header where
  command : UInt16
  length : UInt16
  parameters : Bytes
  parameters_length : parameters.length = 12

namespace Header

/-- A header as it stands in a datagram. -/
def bytes (h : Header) : Bytes :=
  highByte h.command :: lowByte h.command :: highByte h.length :: lowByte h.length :: h.parameters

/-- The header of a version message or of a search. -/
def Known (h : Header) : Prop :=
  h.command = versionCommand ∨ h.command = searchCommand

instance (h : Header) : Decidable h.Known :=
  inferInstanceAs (Decidable (_ ∨ _))

end Header

/-- A message that is all there, with any parameters in its header. -/
structure Sent where
  message : Message
  parameters : Bytes
  parameters_length : parameters.length = 12
  payload_fits : message.payload.length ≤ 65535

namespace Sent

/-- A message as it stands in a datagram. -/
def encode (m : Sent) : Bytes :=
  m.message.encode m.parameters

/-- The header of a message declares the length of its payload. -/
def header (m : Sent) : Header :=
  ⟨m.message.command, UInt16.ofNat m.message.payload.length, m.parameters, m.parameters_length⟩

end Sent

/-- What follows the messages of a datagram. -/
inductive Tail where
  | nothing
  /-- A message with another command, and whatever follows its header. -/
  | foreign (header : Header) (after : Bytes)
  /-- The beginning of a header. -/
  | cutHeader (part : Bytes)
  /-- A header and the beginning of its payload. -/
  | cutPayload (header : Header) (part : Bytes)

namespace Tail

/-- The bytes of a tail. -/
def bytes : Tail → Bytes
  | nothing => []
  | foreign header after => header.bytes ++ after
  | cutHeader part => part
  | cutPayload header part => header.bytes ++ part

/-- What is cut is neither missing nor all there. -/
def Fits : Tail → Prop
  | nothing => True
  | foreign header _ => ¬header.Known
  | cutHeader part => part ≠ [] ∧ part.length < headerLength
  | cutPayload header part => header.Known ∧ part.length < header.length.toNat

/-- The error of reading a message that is cut short at a given offset. -/
def error? (offset : Nat) : Tail → Option DecodeError
  | nothing => none
  | foreign _ _ => none
  | cutHeader part => some (.truncated "epics-ca" offset headerLength part.length)
  | cutPayload header part =>
    some (.truncated "epics-ca" (offset + headerLength) header.length.toNat part.length)

end Tail

/-- A datagram of Channel Access. -/
structure Datagram where
  messages : List Sent
  tail : Tail
  tail_fits : tail.Fits

namespace Datagram

/-- The bytes of a datagram. -/
def encode (d : Datagram) : Bytes :=
  d.messages.flatMap Sent.encode ++ d.tail.bytes

/-- Why the scan of a datagram stops early: a message that is cut short. -/
def error? (d : Datagram) : Option DecodeError :=
  d.tail.error? (d.messages.flatMap Sent.encode).length

end Datagram

/-! ### Headers -/

/-- A number is written high byte first. -/
theorem be16Bytes_toNat (n : UInt16) : Message.be16Bytes n.toNat = [highByte n, lowByte n] := by
  have hlow : UInt8.ofNat (n.toNat % 256) = UInt8.ofNat n.toNat := UInt8.ofNat_mod_size
  rw [Message.be16Bytes, highByte, lowByte, hlow]

namespace Header

theorem bytes_length (h : Header) : h.bytes.length = headerLength := by
  simp [bytes, h.parameters_length, headerLength]

/-- Command and length stand at the beginning of the header. -/
theorem command_bytes (h : Header) :
    ChannelAccess.command h.bytes = (h.command, h.length.toNat) := by
  simp [bytes, ChannelAccess.command, be16_high_low]

/-- As many bytes as a header has are a header. -/
theorem exists_bytes_eq {header : Bytes} (h : header.length = headerLength) :
    ∃ h : Header, h.bytes = header := by
  match header, h with
  | c₁ :: c₀ :: l₁ :: l₀ :: parameters, h =>
    simp only [headerLength, List.length_cons, Nat.reduceEqDiff] at h
    refine ⟨⟨be16 c₁ c₀, be16 l₁ l₀, parameters, h⟩, ?_⟩
    simp [bytes, highByte_be16, lowByte_be16]

end Header

/-- A header tells the length of the payload that follows. -/
theorem Sent.length_header (m : Sent) : m.header.length.toNat = m.message.payload.length :=
  UInt16.toNat_ofNat_of_lt' (Nat.lt_succ_of_le m.payload_fits)

/-- A message begins with its header, and its payload follows. -/
theorem Sent.encode_eq (m : Sent) : m.encode = m.header.bytes ++ m.message.payload := by
  rw [encode, Message.encode, ← m.length_header, be16Bytes_toNat, be16Bytes_toNat]
  rfl

/-- Only the two commands that the decoder knows are sent. -/
theorem Sent.known_header (m : Sent) : m.header.Known := by
  cases hm : m.message <;> simp [header, Header.Known, hm, Message.command]

/-- What a header says of the message that it begins. -/
theorem message_header (h : Header) (layer : String) (offset : Nat) (rest : Bytes) :
    message ⟨layer, offset, h.bytes ++ rest⟩ =
      if h.Known then
        ((⟨layer, offset + headerLength, rest⟩ : Cursor).take h.length.toNat).map fun r =>
          (some (if h.command = versionCommand then .version r.1 else .search r.1), r.2)
      else .ok (none, ⟨layer, offset + headerLength, rest⟩) := by
  have hread := Cursor.take_append layer offset h.bytes rest h.bytes_length
  rw [message, hread]
  simp only [h.command_bytes]
  rw [if_congr (show h.command = versionCommand ∨ h.command = searchCommand ↔ h.Known from .rfl)
    rfl rfl]
  cases (⟨layer, offset + headerLength, rest⟩ : Cursor).take h.length.toNat <;> rfl

/-! ### Reading what was written -/

/-- A message that was written is read, and the bytes behind it are left. -/
theorem message_encode (m : Sent) (layer : String) (offset : Nat) (rest : Bytes) :
    message ⟨layer, offset, m.encode ++ rest⟩ =
      .ok (some m.message, ⟨layer, offset + m.encode.length, rest⟩) := by
  have hread := Cursor.take_append layer (offset + headerLength) m.message.payload rest
    m.length_header.symm
  have hkind : (if m.header.command = versionCommand then Message.version m.message.payload
      else .search m.message.payload) = m.message := by
    cases hm : m.message <;> simp [Sent.header, hm, Message.command, Message.payload,
      versionCommand, searchCommand]
  rw [m.encode_eq, List.append_assoc, message_header, if_pos m.known_header, hread,
    List.length_append, m.header.bytes_length, ← Nat.add_assoc, m.length_header]
  simp only [Except.map, hkind]

/-- What is left after the messages is no message, and tells why. -/
theorem messages_tail {tail : Tail} (h : tail.Fits) (offset : Nat) :
    (messages ⟨"epics-ca", offset, tail.bytes⟩).1 = [] ∧
      (messages ⟨"epics-ca", offset, tail.bytes⟩).2.error? = tail.error? offset := by
  have hmore : ∀ (header : Header) (rest : Bytes),
      ¬(⟨"epics-ca", offset, header.bytes ++ rest⟩ : Cursor).atEnd = true := by
    intro header rest
    exact Cursor.not_atEnd_cons _ _ _ _
  cases tail with
  | nothing =>
    rw [messages_of_atEnd rfl]
    exact ⟨rfl, rfl⟩
  | foreign header after =>
    -- The list ends here, so nothing is said of what follows the header.
    have hmessage := message_header header "epics-ca" offset after
    rw [if_neg h] at hmessage
    rw [Tail.bytes, messages_of_foreign (hmore header after) hmessage]
    exact ⟨rfl, rfl⟩
  | cutHeader part =>
    obtain ⟨hne, hshort⟩ := h
    have hread : (⟨"epics-ca", offset, part⟩ : Cursor).take headerLength =
        .error (.truncated "epics-ca" offset headerLength part.length) :=
      Cursor.take_eq_error_iff.2 ⟨hshort, rfl⟩
    have hmessage : message ⟨"epics-ca", offset, part⟩ =
        .error (.truncated "epics-ca" offset headerLength part.length) := by
      rw [message, hread]
    rw [Tail.bytes, messages_of_error (by simp [Cursor.atEnd, hne]) hmessage]
    exact ⟨rfl, rfl⟩
  | cutPayload header part =>
    obtain ⟨hknown, hshort⟩ := h
    have hread : (⟨"epics-ca", offset + headerLength, part⟩ : Cursor).take header.length.toNat =
        .error (.truncated "epics-ca" (offset + headerLength) header.length.toNat part.length) :=
      Cursor.take_eq_error_iff.2 ⟨hshort, rfl⟩
    have hmessage := message_header header "epics-ca" offset part
    rw [if_pos hknown, hread] at hmessage
    rw [Tail.bytes, messages_of_error (hmore header part) hmessage]
    exact ⟨rfl, rfl⟩

theorem messages_encode (ms : List Sent) {tail : Tail} (h : tail.Fits) (offset : Nat) :
    (messages ⟨"epics-ca", offset, ms.flatMap Sent.encode ++ tail.bytes⟩).1 =
        ms.map Sent.message ∧
      (messages ⟨"epics-ca", offset, ms.flatMap Sent.encode ++ tail.bytes⟩).2.error? =
        tail.error? (offset + (ms.flatMap Sent.encode).length) := by
  -- By induction on the messages: each is read, and leaves the others ahead.
  induction ms generalizing offset with
  | nil => exact messages_tail h offset
  | cons m ms ih =>
    obtain ⟨hmessages, herror⟩ := ih (offset + m.encode.length)
    have hmore : ¬(⟨"epics-ca", offset,
        m.encode ++ (ms.flatMap Sent.encode ++ tail.bytes)⟩ : Cursor).atEnd = true := by
      rw [m.encode_eq]
      exact Cursor.not_atEnd_cons _ _ _ _
    rw [List.flatMap_cons, List.append_assoc, messages_of_message hmore (message_encode m _ _ _),
      hmessages, herror, List.length_append, Nat.add_assoc]
    exact ⟨rfl, rfl⟩

/-! ### Writing what was read -/

/-- A known header and a payload of the length that it declares are a message. -/
theorem exists_encode_eq {h : Header} (hknown : h.Known) {payload : Bytes}
    (hlength : payload.length = h.length.toNat) : ∃ m : Sent, m.encode = h.bytes ++ payload := by
  have hlt := h.length.toNat_lt
  have hfits : payload.length ≤ 65535 := by omega
  have hdeclared : UInt16.ofNat payload.length = h.length := by
    rw [hlength, UInt16.ofNat_toNat]
  rcases hknown with hcommand | hcommand
  · refine ⟨⟨.version payload, h.parameters, h.parameters_length, hfits⟩, ?_⟩
    simp [Sent.encode_eq, Sent.header, Header.bytes, Message.command, Message.payload, hdeclared,
      hcommand]
  · refine ⟨⟨.search payload, h.parameters, h.parameters_length, hfits⟩, ?_⟩
    simp [Sent.encode_eq, Sent.header, Header.bytes, Message.command, Message.payload, hdeclared,
      hcommand]

/-- What comes next is a message, which is read, or a tail, from which none is. -/
theorem message_cases {c : Cursor} (hmore : ¬c.atEnd = true) :
    (∃ (m : Sent) (c' : Cursor), c.rest = m.encode ++ c'.rest ∧
      message c = .ok (some m.message, c')) ∨
    ∃ tail : Tail, tail.Fits ∧ c.rest = tail.bytes ∧ ∀ m c', message c ≠ .ok (some m, c') := by
  obtain ⟨layer, offset, rest⟩ := c
  by_cases hheader : headerLength ≤ rest.length
  · obtain ⟨h, hbytes⟩ := Header.exists_bytes_eq (List.length_take_of_le hheader)
    obtain ⟨after, rfl⟩ : ∃ after, rest = h.bytes ++ after :=
      ⟨rest.drop headerLength, by rw [hbytes, List.take_append_drop]⟩
    have hmessage := message_header h layer offset after
    -- A header is all there, so its command and the length that it declares tell what comes next.
    by_cases hknown : h.Known
    · by_cases hpayload : h.length.toNat ≤ after.length
      · obtain ⟨m, hm⟩ := exists_encode_eq hknown (List.length_take_of_le hpayload)
        have hrest : h.bytes ++ after = m.encode ++ after.drop h.length.toNat := by
          rw [hm, List.append_assoc, List.take_append_drop]
        exact .inl ⟨m, _, hrest, hrest ▸ message_encode m layer offset _⟩
      · have hcut : (⟨layer, offset + headerLength, after⟩ : Cursor).take h.length.toNat =
            .error _ :=
          Cursor.take_eq_error_iff.2 ⟨Nat.lt_of_not_le hpayload, rfl⟩
        rw [if_pos hknown, hcut] at hmessage
        refine .inr ⟨.cutPayload h after, ⟨hknown, Nat.lt_of_not_le hpayload⟩, rfl, ?_⟩
        intro m c' hread
        cases hmessage.symm.trans hread
    · rw [if_neg hknown] at hmessage
      refine .inr ⟨.foreign h after, hknown, rfl, ?_⟩
      intro m c' hread
      cases hmessage.symm.trans hread
  · have hcut : (⟨layer, offset, rest⟩ : Cursor).take headerLength = .error _ :=
      Cursor.take_eq_error_iff.2 ⟨Nat.lt_of_not_le hheader, rfl⟩
    refine .inr ⟨.cutHeader rest, ⟨?_, Nat.lt_of_not_le hheader⟩, rfl, ?_⟩
    · intro hnil
      exact hmore (List.isEmpty_iff.2 hnil)
    · intro m c' hread
      rw [message, hcut] at hread
      cases hread

/-- By the recursion over the messages: what comes next is messages and a tail. -/
theorem exists_messages (c : Cursor) : ∃ (ms : List Sent) (tail : Tail),
    tail.Fits ∧ c.rest = ms.flatMap Sent.encode ++ tail.bytes := by
  induction c using messages.induct with
  | case1 c hend => exact ⟨[], .nothing, trivial, List.isEmpty_iff.1 hend⟩
  | case2 c hmore e hmessage =>
    rcases message_cases hmore with ⟨m, c', -, h⟩ | ⟨tail, htail, hrest, -⟩
    · cases hmessage.symm.trans h
    · exact ⟨[], tail, htail, hrest⟩
  | case3 c hmore c' hmessage =>
    rcases message_cases hmore with ⟨m, c', -, h⟩ | ⟨tail, htail, hrest, -⟩
    · cases hmessage.symm.trans h
    · exact ⟨[], tail, htail, hrest⟩
  | case4 c hmore m c' hmessage hless ms ending hmessages ih =>
    rcases message_cases hmore with ⟨m', d, hrest, h⟩ | ⟨tail, -, -, hnone⟩
    · cases hmessage.symm.trans h
      obtain ⟨ms, tail, htail, hbytes⟩ := ih
      exact ⟨m' :: ms, tail, htail, by rw [hrest, hbytes, List.flatMap_cons, List.append_assoc]⟩
    · exact absurd hmessage (hnone m c')

/-- Every body is a datagram, in one way or another. -/
theorem exists_datagram (body : Bytes) : ∃ d : Datagram, d.encode = body := by
  obtain ⟨ms, tail, htail, hbytes⟩ := exists_messages ⟨"epics-ca", 0, body⟩
  exact ⟨⟨ms, tail, htail⟩, hbytes.symm⟩

/-! ### Names -/

/-- The name in a search: the text of its payload up to the first NUL, of which 255 bytes are kept.
    An empty text is no name. -/
def Message.name? : Message → Option String
  | version _ => none
  | search payload =>
    let text := Text.decodeLossy ((payload.takeWhile fun b => b ≠ 0).take 255)
    if text = "" then none else some text

/-- The names in a datagram, in order. -/
def Datagram.names (d : Datagram) : List String :=
  d.messages.filterMap fun m => m.message.name?

/-- The name in a search is the one that the decoder takes, unless it is empty. -/
theorem name?_search (payload : Bytes) :
    (Message.search payload).name? = if name payload = "" then none else some (name payload) := by
  have huntil : (payload.takeWhile fun b => b ≠ 0) = payload.untilNul := by
    simp [Bytes.untilNul, Bytes.untilByte, Bool.beq_eq_decide_eq]
  rw [Message.name?, huntil]
  rfl

/-- By induction on the messages: a record takes names up to its limit. -/
theorem foldl_apply (ms : List Message) (s : Sighting) :
    (ms.foldl Message.apply s) = { s with
      pvNames := s.pvNames ++
        (ms.filterMap Message.name?).take (Sighting.maxPvNames - s.pvNames.length) } := by
  induction ms generalizing s with
  | nil => simp
  | cons m ms ih =>
    rw [List.foldl_cons, ih]
    cases m with
    | version payload => rfl
    | search payload =>
      rw [List.filterMap_cons, name?_search, Message.apply]
      by_cases hempty : name payload = ""
      · rw [if_pos hempty, if_pos hempty]
      · rw [if_neg hempty, if_neg hempty, Sighting.addPvName]
        by_cases hroom : s.pvNames.length < Sighting.maxPvNames
        · have hleft : Sighting.maxPvNames - s.pvNames.length =
              Sighting.maxPvNames - (s.pvNames.length + 1) + 1 := by omega
          simp [Sighting.hasRoom, hroom, hleft]
        · -- There is no room for this name, nor for any that follows.
          have hleft : Sighting.maxPvNames - s.pvNames.length = 0 := by omega
          simp [Sighting.hasRoom, hroom, hleft]

/-- The error is that of the ending. -/
theorem refine_error (ending : Ending) (ms : List Message) (s : Sighting) :
    (refine ending ms s).error = ending.error? := by
  induction ms generalizing s with
  | nil => rfl
  | cons m ms ih =>
    cases m with
    | version payload => exact ih s
    | search payload =>
      rw [refine]
      split
      · exact ih s
      · split
        · exact ih _
        · exact ih s

/-! ### The scan of a datagram -/

/-- Whatever a datagram consists of: a record without names gets the first names of the searches in
    it, as many as it has room for, and is otherwise as it was. The scan stops early only at a
    message that is cut short. -/
theorem scan_datagram (d : Datagram) {s : Sighting} (hs : s.pvNames = []) :
    (scan d.encode s).sighting = { s with pvNames := d.names.take 32 } ∧
      (scan d.encode s).error = d.error? := by
  obtain ⟨hmessages, herror⟩ := messages_encode d.messages d.tail_fits 0
  rw [Nat.zero_add] at herror
  constructor
  · have hnames : (d.messages.map Sent.message).filterMap Message.name? = d.names := by
      rw [List.filterMap_map]
      rfl
    rw [scan, sighting_refine, foldl_apply, Datagram.encode, Cursor.start, hmessages, hnames, hs]
    rfl
  · rw [scan, refine_error, Datagram.encode, Cursor.start, herror]
    rfl

/-- More searches than a record has room for, and then a header that is cut short. -/
def crowded : Datagram where
  messages := List.replicate 33 ⟨.search [0x53, 0x52, 0x3a, 0x49, 0x00, 0xff],
    List.replicate 12 0, rfl, by decide⟩
  tail := .cutHeader [0, 6, 0]
  tail_fits := ⟨by decide, by decide⟩

/-- A cut is told even if it comes after the record is full. -/
theorem scan_datagram_of_crowded :
    let s := Sighting.plain ⟨2, 0, 0, 0, 0, 1⟩ ⟨10, 0, 0, 7⟩ ⟨1, 2⟩ none .channelAccess
    s.pvNames = [] ∧
      (scan crowded.encode s).sighting = { s with pvNames := List.replicate 32 "SR:I" } ∧
      (scan crowded.encode s).error = some (.truncated "epics-ca" 726 16 3) := by
  intro s
  have hs : s.pvNames = [] := rfl
  have hnames : crowded.names.take 32 = List.replicate 32 "SR:I" := by decide +kernel
  have herror : crowded.error? = some (.truncated "epics-ca" 726 16 3) := by decide +kernel
  obtain ⟨hsighting, hstopped⟩ := scan_datagram crowded hs
  exact ⟨hs, by rw [hsighting, hnames], by rw [hstopped, herror]⟩

end LanWatch.ChannelAccess
